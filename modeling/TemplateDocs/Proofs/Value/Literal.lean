import TemplateDocs.Page.Literal
import TemplateDocs.Proofs.Value.Json

/-! # Documents as literals

A value that comes from a JSON document has a literal unless a whole number in it has too many digits or
there is no room for the calls that it takes. Neither the literal nor the text on one line depends on the
order of the keys.
-/

namespace TemplateDocs.Value

open List

/-! ## How many calls a literal takes -/

mutual

/-- How many calls stand inside of each other while a value is written as a literal: one for each value
on the way down, and another one to go through the items of a list. -/
def calls : Value → Nat
  | list [] => 1
  | list items => callsItems items + 2
  | tuple [] => 1
  | tuple items => callsItems items + 2
  | dict entries => callsEntries entries + 1
  | _ => 1

/-- The most calls for an item of a list. -/
def callsItems : List Value → Nat
  | [] => 0
  | item :: items => max (calls item) (callsItems items)

/-- The most calls for a value of a mapping. -/
def callsEntries : List (Key × Value) → Nat
  | [] => 0
  | (_, item) :: entries => max (calls item) (callsEntries entries)

end

section Calls

variable {items : List Value} {n : Nat}

theorem calls_pos (v : Value) : 0 < v.calls := by
  cases v with
  | list items => cases items <;> simp [calls]
  | tuple items => cases items <;> simp [calls]
  | _ => simp [calls]

theorem callsItems_le_iff : callsItems items ≤ n ↔ ∀ x ∈ items, x.calls ≤ n := by
  induction items with
  | nil => simp [callsItems]
  | cons x items ih => rw [callsItems, Nat.max_le, ih, List.forall_mem_cons]

theorem callsItems_le_pred_iff (hne : items ≠ []) :
    callsItems items + 2 ≤ n + 1 ↔ ∀ x ∈ items, x.calls ≤ n - 1 := by
  obtain ⟨x, xs, rfl⟩ := List.exists_cons_of_ne_nil hne
  have hpos := x.calls_pos
  rw [← callsItems_le_iff]
  have hfirst : x.calls ≤ callsItems (x :: xs) := by
    rw [callsItems]
    exact Nat.le_max_left _ _
  omega

theorem calls_list_le_iff (hne : items ≠ []) :
    (list items).calls ≤ n + 1 ↔ ∀ x ∈ items, x.calls ≤ n - 1 := by
  rw [← callsItems_le_pred_iff hne, calls]
  exact hne

theorem calls_dict_le_iff {entries : List (Key × Value)} :
    (dict entries).calls ≤ n + 1 ↔ ∀ e ∈ entries, e.2.calls ≤ n := by
  rw [calls, Nat.add_le_add_iff_right]
  induction entries with
  | nil => simp [callsEntries]
  | cons e entries ih => rw [callsEntries, Nat.max_le, ih, List.forall_mem_cons]

theorem calls_array_le_iff {items : List Json} (hne : items ≠ []) :
    (ofJson (.array items)).calls ≤ n + 1 ↔ ∀ x ∈ items, (ofJson x).calls ≤ n - 1 := by
  rw [ofJson, ofItems_eq_map, calls_list_le_iff (by simpa using hne), List.forall_mem_map]

theorem calls_object_le_iff {entries : List (String × Json)} :
    (ofJson (.object entries)).calls ≤ n + 1 ↔ ∀ e ∈ entries, (ofJson e.2).calls ≤ n := by
  rw [ofJson, ofEntries_eq_map, calls_dict_le_iff, List.forall_mem_map]

end Calls

/-! ## What is written -/

/-- The entry of an object in a literal. -/
def writtenEntry (key text : String) : String :=
  Literal.key key ++ ": " ++ text

mutual

/-- The literal of a document at a depth. -/
def written (depth : Nat) : Json → String
  | .null => "null"
  | .bool b => if b then "true" else "false"
  | .int n => toString n
  | .float x => x.text jsonWords
  | .text s => Literal.text s
  | .array items =>
    if items.isEmpty then "[]" else Literal.block "[" "]" depth (writtenAll (depth + 1) items)
  | .object entries =>
    if entries.isEmpty then "\x7b\x7d"
    else Literal.block "\x7b" "\x7d" depth
      ((sortByName Prod.fst (writtenMembers (depth + 1) entries)).map fun e => writtenEntry e.1 e.2)

/-- The literals of the items of an array. -/
def writtenAll (depth : Nat) : List Json → List String
  | [] => []
  | item :: items => written depth item :: writtenAll depth items

/-- The literals of the values of an object. -/
def writtenMembers (depth : Nat) : List (String × Json) → List (String × String)
  | [] => []
  | (key, value) :: entries => (key, written depth value) :: writtenMembers depth entries

end

theorem written_array (depth : Nat) (items : List Json) :
    written depth (.array items) = if items.isEmpty then "[]"
      else Literal.block "[" "]" depth (items.map (written (depth + 1))) := by
  have hitems : ∀ items, writtenAll (depth + 1) items = items.map (written (depth + 1)) := by
    intro items
    induction items with
    | nil => rfl
    | cons x items ih => rw [writtenAll, ih, List.map_cons]
  rw [written, hitems]

theorem written_object (depth : Nat) (entries : List (String × Json)) :
    written depth (.object entries) = if entries.isEmpty then "\x7b\x7d"
      else Literal.block "\x7b" "\x7d" depth
        ((sortByName Prod.fst entries).map fun e => writtenEntry e.1 (written (depth + 1) e.2)) := by
  have hvalues : ∀ entries, writtenMembers (depth + 1) entries =
      entries.map fun e => (e.1, written (depth + 1) e.2) := by
    intro entries
    induction entries with
    | nil => rfl
    | cons e entries ih => rw [writtenMembers, ih, List.map_cons]
  rw [written, hvalues, ← map_sortByName Prod.fst Prod.fst (fun e => (e.1, written (depth + 1) e.2))
    fun _ => rfl, List.map_map]
  rfl

section Literal

variable (owner : String) (room depth : Nat)

theorem literal_zero (v : Value) : Literal.value owner 0 depth v = .error (.fault .tooDeep) := by
  rw [Literal.value.eq_def, if_pos rfl]

theorem literal_items (items : List Value) :
    Literal.items owner room depth items = items.mapM (Literal.value owner room depth) := by
  induction items with
  | nil => rfl
  | cons x items ih => rw [Literal.items, ih, List.mapM_cons]

theorem literal_entries (entries : List (Key × Value)) :
    Literal.entries owner room depth entries =
      entries.map fun e => (e.1, Literal.value owner room depth e.2) := by
  induction entries with
  | nil => rfl
  | cons e entries ih => rw [Literal.entries, ih, List.map_cons]

theorem literal_array {items : List Json} (hne : items ≠ []) :
    Literal.value owner (room + 1) depth (ofJson (.array items)) =
      (items.mapM fun x => Literal.value owner (room - 1) (depth + 1) (ofJson x)).map
        (Literal.block "[" "]" depth) := by
  have hitems : (items.mapM fun x => Literal.value owner (room - 1) (depth + 1) (ofJson x)) =
      Literal.items owner (room - 1) (depth + 1) (ofItems items) := by
    rw [literal_items, ofItems_eq_map, List.mapM_map]
    rfl
  rw [hitems, ofJson]
  obtain ⟨x, items, rfl⟩ := List.exists_cons_of_ne_nil hne
  rw [ofItems, Literal.value.eq_def, if_neg (Nat.succ_ne_zero room)]
  rfl

theorem literal_object {entries : List (String × Json)} (hne : entries ≠ []) :
    Literal.value owner (room + 1) depth (ofJson (.object entries)) =
      ((sortByName Prod.fst entries).mapM fun e =>
        (Literal.value owner room (depth + 1) (ofJson e.2)).map (writtenEntry e.1)).map
          (Literal.block "\x7b" "\x7d" depth) := by
  have hlines : Literal.entryLines owner (Literal.entries owner room (depth + 1) (ofEntries entries)) =
      (sortByName Prod.fst entries).mapM fun e =>
        (Literal.value owner room (depth + 1) (ofJson e.2)).map (writtenEntry e.1) := by
    have hentries : Literal.entries owner room (depth + 1) (ofEntries entries) = entries.map fun e =>
        (Key.text e.1, Literal.value owner room (depth + 1) (ofJson e.2)) := by
      rw [literal_entries, ofEntries_eq_map, List.map_map]
      rfl
    rw [hentries, Literal.entryLines, sortEntries_text, List.mapM_map]
    rfl
  rw [← hlines]
  have hordered := ordered_ofEntries entries
  obtain ⟨e, entries, rfl⟩ := List.exists_cons_of_ne_nil hne
  rw [ofJson]
  rw [ofEntries] at hordered ⊢
  rw [Literal.value.eq_def, if_neg (Nat.succ_ne_zero room)]
  dsimp only
  rw [hordered, if_pos rfl]
  rfl

end Literal

/-- A document whose numbers have no more digits than they may has a literal exactly if there is room for
its calls. The owner is only named in reports, and no report comes up. -/
theorem literal_ofJson {doc : Json} (h : doc.longest ≤ Text.digitLimit) (owner : String) :
    ∀ room depth, Literal.value owner room depth (ofJson doc) =
      if (ofJson doc).calls ≤ room then .ok (written depth doc) else .error (.fault .tooDeep) := by
  induction doc using Json.inductionOn with
  | array items ih =>
      intro room depth
      cases room with
      | zero => rw [literal_zero, if_neg (Nat.not_le_of_lt (calls_pos _))]
      | succ room =>
          by_cases hne : items = []
          · subst hne
            rfl
          rw [literal_array owner room depth hne, written_array]
          have hitems := fun x hx =>
            ih x hx (Json.longest_array_le_iff.mp h x hx) (room - 1) (depth + 1)
          have hempty : items.isEmpty = false := by simpa using hne
          rw [mapM_eq_ite hitems, hempty]
          simp only [calls_array_le_iff hne]
          split <;> rfl
  | object entries ih =>
      intro room depth
      cases room with
      | zero => rw [literal_zero, if_neg (Nat.not_le_of_lt (calls_pos _))]
      | succ room =>
          by_cases hne : entries = []
          · subst hne
            rfl
          have hmem (e : String × Json) : e ∈ sortByName Prod.fst entries ↔ e ∈ entries :=
            (sortByName_perm Prod.fst entries).mem_iff
          have hvalues : ∀ e ∈ sortByName Prod.fst entries,
              (Literal.value owner room (depth + 1) (ofJson e.2)).map (writtenEntry e.1) =
                if (ofJson e.2).calls ≤ room then .ok (writtenEntry e.1 (written (depth + 1) e.2))
                else .error (.fault .tooDeep) := by
            intro e he
            have hentry := (hmem e).mp he
            rw [ih e hentry (Json.longest_object_le_iff.mp h e hentry)]
            split <;> rfl
          have hempty : entries.isEmpty = false := by simpa using hne
          rw [literal_object owner room depth hne, written_object, mapM_eq_ite hvalues, hempty]
          simp only [calls_object_le_iff, hmem]
          split <;> rfl
  | int n =>
      intro room depth
      cases room with
      | zero => rw [literal_zero, if_neg (Nat.not_le_of_lt (calls_pos _))]
      | succ room =>
          have hcalls : (ofJson (.int n)).calls ≤ room + 1 := Nat.succ_le_succ (Nat.zero_le room)
          rw [if_pos hcalls, ofJson, Literal.value.eq_def, if_neg (Nat.succ_ne_zero room)]
          dsimp only
          rw [Literal.int, showInt_eq, if_pos h]
          rfl
  | _ =>
      intro room depth
      cases room with
      | zero => rfl
      | succ room => exact (if_pos (Nat.succ_le_succ (Nat.zero_le room))).symm

/-- A number with too many digits keeps a document from having a literal. -/
theorem longest_le_of_literal {doc : Json} {owner : String} {room depth : Nat} {s : String}
    (h : Literal.value owner room depth (ofJson doc) = .ok s) : doc.longest ≤ Text.digitLimit := by
  induction doc using Json.inductionOn generalizing room depth s with
  | array items ih =>
      cases room with
      | zero =>
          rw [literal_zero] at h
          cases h
      | succ room =>
          refine Json.longest_array_le_iff.mpr fun x hx => ?_
          rw [literal_array owner room depth (List.ne_nil_of_mem hx)] at h
          obtain ⟨parts, hparts, -⟩ := map_eq_ok_iff.mp h
          obtain ⟨part, hpart⟩ := exists_of_mapM_eq_ok hparts hx
          exact ih x hx hpart
  | object entries ih =>
      cases room with
      | zero =>
          rw [literal_zero] at h
          cases h
      | succ room =>
          refine Json.longest_object_le_iff.mpr fun e he => ?_
          rw [literal_object owner room depth (List.ne_nil_of_mem he)] at h
          obtain ⟨lines, hlines, -⟩ := map_eq_ok_iff.mp h
          obtain ⟨line, hline⟩ := exists_of_mapM_eq_ok hlines
            ((sortByName_perm Prod.fst entries).mem_iff.mpr he)
          obtain ⟨text, htext, -⟩ := map_eq_ok_iff.mp hline
          exact ih e he htext
  | int n =>
      cases room with
      | zero =>
          rw [literal_zero] at h
          cases h
      | succ room =>
          rw [ofJson, Literal.value.eq_def, if_neg (Nat.succ_ne_zero room)] at h
          dsimp only at h
          rw [Literal.int, showInt_eq] at h
          split at h
          · assumption
          · cases h
  | _ => exact Nat.zero_le _

/-- Which documents have a literal, and which literal that is. -/
theorem literal_ofJson_eq_ok_iff {doc : Json} {owner : String} {room depth : Nat} {s : String} :
    Literal.value owner room depth (ofJson doc) = .ok s ↔
      doc.longest ≤ Text.digitLimit ∧ (ofJson doc).calls ≤ room ∧ written depth doc = s := by
  constructor
  · intro h
    have hdigits := longest_le_of_literal h
    rw [literal_ofJson hdigits] at h
    split at h
    · exact ⟨hdigits, ‹_›, Except.ok.inj h⟩
    · cases h
  · rintro ⟨hdigits, hcalls, rfl⟩
    rw [literal_ofJson hdigits, if_pos hcalls]

theorem ofValue_ofJson_eq_ok_iff {doc : Json} {owner indent s : String} :
    Literal.ofValue owner indent (ofJson doc) = .ok s ↔
      doc.longest ≤ Text.digitLimit ∧ (ofJson doc).calls ≤ callLimit ∧
        Literal.indentLines indent (written 0 doc) = s := by
  simp only [Literal.ofValue, map_eq_ok_iff, literal_ofJson_eq_ok_iff, and_assoc, exists_and_left,
    exists_eq_left']

/-! ## The order of keys does not show -/

theorem literal_eq_of_reordered {a b : Json} (h : a.Reordered b) (hk : a.KeysOnce) (owner : String) :
    ∀ room depth, Literal.value owner room depth (ofJson a) =
      Literal.value owner room depth (ofJson b) := by
  induction a using Json.inductionOn generalizing b with
  | array xs ih =>
      intro room depth
      cases h with
      | same => rfl
      | @array _ ys h =>
          cases room with
          | zero => rw [literal_zero, literal_zero]
          | succ room =>
              by_cases hne : xs = []
              · subst hne
                cases h
                rfl
              have hne' : ys ≠ [] := fun hys => hne (List.forall₂_nil_right_iff.mp (hys ▸ h))
              have hitems := map_eq_of_reordered
                (fun x => Literal.value owner (room - 1) (depth + 1) (ofJson x)) h
                fun x hx y hxy => ih x hx hxy (hk.items x hx) (room - 1) (depth + 1)
              rw [literal_array owner room depth hne, literal_array owner room depth hne',
                mapM_eq_mapM_id, hitems, ← mapM_eq_mapM_id]
  | object es ih =>
      intro room depth
      cases h with
      | same => rfl
      | @object _ _ fs hkeys hvalues hperm =>
          have hes : Json.EntriesReordered es fs :=
            ⟨_, Json.forall₂_entryReordered hkeys hvalues, hperm⟩
          cases room with
          | zero => rw [literal_zero, literal_zero]
          | succ room =>
              by_cases hne : es = []
              · subst hne
                have hempty : fs = [] := List.isEmpty_iff.mp hes.isEmpty_eq.symm
                rw [hempty]
              have hne' : fs ≠ [] := by
                rintro rfl
                exact hne (List.isEmpty_iff.mp hes.isEmpty_eq)
              have hentries := map_sortByName_eq_of_reordered
                (fun x => Literal.value owner room (depth + 1) (ofJson x))
                (fun key text => text.map (writtenEntry key)) hes hk.nodup
                fun e he b hb => ih e he hb (hk.entries e he) room (depth + 1)
              rw [literal_object owner room depth hne, literal_object owner room depth hne',
                mapM_eq_mapM_id, hentries, ← mapM_eq_mapM_id]
  | _ => cases h; exact fun _ _ => rfl

/-- Values that no page can tell apart. -/
structure Alike (v w : Value) : Prop where
  encode_eq : ∀ room, v.encode room = w.encode room
  literal_eq : ∀ owner room depth,
    Literal.value owner room depth v = Literal.value owner room depth w
  isNull_eq : v.isNull = w.isNull

theorem alike_ofJson {a b : Json} (h : a.Reordered b) (hk : a.KeysOnce) :
    Alike (ofJson a) (ofJson b) where
  encode_eq := encode_eq_of_reordered h hk
  literal_eq := literal_eq_of_reordered h hk
  isNull_eq := by cases h <;> rfl

theorem alike_ofItems {xs ys : List Json} (h : Forall₂ Json.Reordered xs ys)
    (hk : ∀ x ∈ xs, x.KeysOnce) : Forall₂ Alike (ofItems xs) (ofItems ys) := by
  induction h with
  | nil => exact .nil
  | @cons x y xs ys hxy _ ih =>
      exact .cons (alike_ofJson hxy (hk x List.mem_cons_self))
        (ih fun z hz => hk z (List.mem_cons_of_mem x hz))

end TemplateDocs.Value
