import TemplateDocs.Json.Reader
import TemplateDocs.Proofs.Agreement
import TemplateDocs.Proofs.Json.Parts

/-! # What the reader of JSON gives

Of several values under one key the reader keeps the last, so that no key stands twice in what it
reads. No whole number has more digits than its limits allow, and no values stand deeper inside of others.
-/

namespace TemplateDocs.Json

/-- What is read within limits while there is room for so many values inside of each other. -/
inductive Given (limits : Limits) : (room : Nat) → Json → Prop where
  | null (room : Nat) : Given limits room .null
  | bool (room : Nat) (b : Bool) : Given limits room (.bool b)
  | int (room : Nat) {n : Int} (h : (Json.int n).longest ≤ limits.digits) : Given limits room (.int n)
  | float (room : Nat) (x : Double) : Given limits room (.float x)
  | text (room : Nat) (s : String) : Given limits room (.text s)
  | array {room : Nat} {items : List Json} (h : ∀ x ∈ items, Given limits room x) :
      Given limits (room + 1) (.array items)
  | object {room : Nat} {entries : List (String × Json)} (hn : (entries.map Prod.fst).Nodup)
      (h : ∀ e ∈ entries, Given limits room e.2) : Given limits (room + 1) (.object entries)

section Given

variable {limits : Limits} {room : Nat} {doc : Json}

theorem Given.keysOnce (h : Given limits room doc) : KeysOnce doc := by
  induction h with
  | null => exact .null
  | bool _ b => exact .bool b
  | int => exact .int _
  | float _ x => exact .float x
  | text _ s => exact .text s
  | array _ ih => exact .array ih
  | object hn _ ih => exact .object hn ih

theorem Given.longest_le (h : Given limits room doc) : doc.longest ≤ limits.digits := by
  induction h with
  | int _ h => exact h
  | array _ ih => exact longest_array_le_iff.mpr ih
  | object _ _ ih => exact longest_object_le_iff.mpr ih
  | _ => exact Nat.zero_le _

theorem Given.depth_le (h : Given limits room doc) : doc.depth ≤ room := by
  induction h with
  | array _ ih => exact depth_array_le_iff.mpr ih
  | object _ _ ih => exact depth_object_le_iff.mpr ih
  | _ => exact Nat.zero_le _

end Given

/-! ## Whole numbers -/

/-- The bound is carried from digit to digit, from whatever was read before. -/
theorem digitsValue_lt {cs : List Char} (h : ∀ c ∈ cs, c.isDigit = true) :
    digitsValue cs < Nat.pow 10 cs.length := by
  have hfold : ∀ value, cs.foldl (fun value c => 10 * value + (c.toNat - '0'.toNat)) value <
      (value + 1) * Nat.pow 10 cs.length := by
    induction cs with
    | nil => simp
    | cons c cs ih =>
        intro value
        obtain ⟨hc, hcs⟩ := List.forall_mem_cons.mp h
        have hdigit : c.toNat - '0'.toNat < 10 := by
          simp only [Char.isDigit, Bool.and_eq_true, decide_eq_true_eq] at hc
          have hle : c.toNat ≤ 57 := hc.2
          have hzero : '0'.toNat = 48 := rfl
          omega
        calc (c :: cs).foldl (fun value c => 10 * value + (c.toNat - '0'.toNat)) value
            < (10 * value + (c.toNat - '0'.toNat) + 1) * Nat.pow 10 cs.length := ih hcs _
          _ ≤ (10 * (value + 1)) * Nat.pow 10 cs.length := Nat.mul_le_mul_right _ (by omega)
          _ = (value + 1) * (Nat.pow 10 cs.length * 10) := by
            rw [Nat.mul_comm 10, Nat.mul_assoc, Nat.mul_comm 10]
  have hlt := hfold 0
  rwa [Nat.zero_add, Nat.one_mul] at hlt

theorem readWhole_digits {cs whole rest : List Char} (h : readWhole cs = some (whole, rest)) :
    whole ≠ [] ∧ ∀ c ∈ whole, c.isDigit = true := by
  unfold readWhole at h
  split at h
  · cases h
    exact ⟨by simp, fun _ hc => List.mem_singleton.mp hc ▸ rfl⟩
  · rename_i c tail _
    split at h
    · rename_i hc
      cases h
      refine ⟨by simp, List.forall_mem_cons.mpr ⟨hc, fun d hd => ?_⟩⟩
      exact (List.all_eq_true.mp List.all_takeWhile) d hd
    · cases h
  · cases h

theorem readUnsigned_given {limits : Limits} {negative : Bool} {cs rest : List Char} {doc : Json}
    (h : readUnsigned limits negative cs = .ok (doc, rest)) (room : Nat) : Given limits room doc := by
  unfold readUnsigned at h
  split at h
  · cases h
  · rename_i whole tail hwhole
    dsimp only at h
    split at h
    · split at h
      · cases h
      · rename_i hdigits
        cases h
        obtain ⟨hne, hall⟩ := readWhole_digits hwhole
        have hvalue : (if negative then -(digitsValue whole : Int) else digitsValue whole).natAbs =
            digitsValue whole := by
          split <;> simp
        have hlength : (Nat.toDigits 10 (digitsValue whole)).length ≤ whole.length :=
          (Nat.length_toDigits_le_iff (by decide) (List.length_pos_of_ne_nil hne)).mpr
            (digitsValue_lt hall)
        refine .int room ?_
        change (Nat.toDigits 10 (Int.natAbs _)).length ≤ limits.digits
        rw [hvalue]
        exact Nat.le_trans hlength (Nat.le_of_not_lt hdigits)
    · cases h
      exact .float room _

theorem readNumber_given {limits : Limits} {cs rest : List Char} {doc : Json}
    (h : readNumber limits cs = .ok (doc, rest)) (room : Nat) : Given limits room doc := by
  unfold readNumber at h
  split at h
  · cases h
    exact .float room _
  · cases h
    exact .float room _
  · cases h
    exact .float room _
  · exact readUnsigned_given h room
  · exact readUnsigned_given h room

/-! ## Documents -/

/-- The induction is on the fuel, for the three readers together. -/
theorem readers_given (limits : Limits) (fuel : Nat) :
    (∀ room cs doc rest, readValue limits fuel room cs = .ok (doc, rest) → Given limits room doc) ∧
    (∀ room cs items rest, readItems limits fuel room cs = .ok (items, rest) →
      ∀ x ∈ items, Given limits room x) ∧
    (∀ room cs entries rest, readEntries limits fuel room cs = .ok (entries, rest) →
      ∀ e ∈ entries, Given limits room e.2) := by
  induction fuel with
  | zero =>
      refine ⟨?_, ?_, ?_⟩
      · intro room cs doc rest h
        simp [readValue] at h
      · intro room cs items rest h
        simp [readItems] at h
      · intro room cs entries rest h
        simp [readEntries] at h
  | succ fuel ih =>
      obtain ⟨ihValue, ihItems, ihEntries⟩ := ih
      refine ⟨?_, ?_, ?_⟩
      · intro room cs doc rest h
        unfold readValue at h
        dsimp only at h
        split at h
        · cases h; exact .null room
        · cases h; exact .bool room true
        · cases h; exact .bool room false
        · obtain ⟨⟨s, rest'⟩, -, hs⟩ := bind_eq_ok_iff.mp h
          cases hs
          exact .text room s
        · split at h
          · cases h
          · rename_i hroom _
            obtain ⟨room, rfl⟩ := Nat.exists_eq_succ_of_ne_zero hroom
            cases h
            exact .array (by simp)
          · obtain ⟨⟨items, rest'⟩, hitems, hs⟩ := bind_eq_ok_iff.mp h
            cases hs
            exact .array (ihItems _ _ _ _ hitems)
        · split at h
          · cases h
          · rename_i hroom _
            obtain ⟨room, rfl⟩ := Nat.exists_eq_succ_of_ne_zero hroom
            cases h
            exact .object (by simp) (by simp)
          · obtain ⟨⟨entries, rest'⟩, hentries, hs⟩ := bind_eq_ok_iff.mp h
            cases hs
            refine .object (lastEntries_nodup entries) fun e he => ?_
            exact ihEntries _ _ _ _ hentries e (mem_lastEntries he)
        · exact readNumber_given h room
      · intro room cs items rest h
        rw [readItems] at h
        obtain ⟨⟨item, rest'⟩, hitem, h⟩ := bind_eq_ok_iff.mp h
        have hfirst : Given limits room item := ihValue _ _ _ _ hitem
        dsimp only at h
        split at h
        · cases h
          simpa using hfirst
        · obtain ⟨⟨others, rest''⟩, hothers, h⟩ := bind_eq_ok_iff.mp h
          cases h
          simpa [hfirst] using ihItems _ _ _ _ hothers
        · cases h
      · intro room cs entries rest h
        unfold readEntries at h
        dsimp only at h
        split at h
        · obtain ⟨⟨key, rest'⟩, -, h⟩ := bind_eq_ok_iff.mp h
          dsimp only at h
          split at h
          · obtain ⟨⟨value, rest''⟩, hvalue, h⟩ := bind_eq_ok_iff.mp h
            have hfirst : Given limits room value := ihValue _ _ _ _ hvalue
            dsimp only at h
            split at h
            · cases h
              simpa using hfirst
            · obtain ⟨⟨others, rest'''⟩, hothers, h⟩ := bind_eq_ok_iff.mp h
              cases h
              simpa [hfirst] using ihEntries _ _ _ _ hothers
            · cases h
          · cases h
        · cases h

theorem read_given {s : String} {doc : Json} (h : read s = .ok doc) : Given {} callLimit doc := by
  unfold read readWithin at h
  obtain ⟨⟨value, rest⟩, hvalue, h⟩ := bind_eq_ok_iff.mp h
  dsimp only at h
  split at h
  · cases h
    exact (readers_given _ _).1 _ _ _ _ hvalue
  · cases h

/-- A document that was read has no key twice, at any depth. -/
theorem read_keysOnce {s : String} {doc : Json} (h : read s = .ok doc) : KeysOnce doc :=
  (read_given h).keysOnce

/-- A document that was read is within the limits of its reader. -/
theorem read_inLimits {s : String} {doc : Json} (h : read s = .ok doc) : doc.InLimits :=
  ⟨(read_given h).longest_le, (read_given h).depth_le⟩

end TemplateDocs.Json
