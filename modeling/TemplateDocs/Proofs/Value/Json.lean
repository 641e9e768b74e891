import Mathlib.Data.String.Basic
import TemplateDocs.Proofs.Agreement
import TemplateDocs.Proofs.Json.Parts
import TemplateDocs.Value.Encode

/-! # Documents as values

A value that comes from a JSON document has a text on one line unless a whole number in it has too many
digits or values stand too deep inside of others. The text does not depend on the order of the keys.
-/

namespace TemplateDocs.Value

open List

/-! ## Keys that are texts -/

/-- Entries under texts are sorted by these texts. -/
theorem sortEntries_text {α β : Type} (name : α → String) (f : α → β) (items : List α) :
    Key.sortEntries (items.map fun x => (Key.text (name x), f x)) =
      (sortByName name items).map fun x => (Key.text (name x), f x) := by
  symm
  apply List.map_mergeSort
  intro a _ b _
  simp only [Key.less, Bool.not_not]

theorem ofItems_eq_map (items : List Json) : ofItems items = items.map ofJson := by
  induction items with
  | nil => rfl
  | cons x items ih => simp [ofItems, ih]

theorem ofEntries_eq_map (entries : List (String × Json)) :
    ofEntries entries = entries.map fun e => (Key.text e.1, ofJson e.2) := by
  induction entries with
  | nil => rfl
  | cons e entries ih => simp [ofEntries, ih]

theorem exists_text_of_mem_ofEntries {entries : List (String × Json)} {k : Key}
    (h : k ∈ (ofEntries entries).map Prod.fst) : ∃ s, k = Key.text s := by
  rw [ofEntries_eq_map, List.map_map] at h
  obtain ⟨e, -, rfl⟩ := List.mem_map.mp h
  exact ⟨e.1, rfl⟩

theorem ordered_ofEntries (entries : List (String × Json)) :
    Key.ordered ((ofEntries entries).map Prod.fst) = true := by
  rw [Key.ordered, Bool.or_eq_true]
  cases hkeys : (ofEntries entries).map Prod.fst with
  | nil => exact .inl (by simp)
  | cons first keys =>
      refine .inr ?_
      have hkind : ∀ k ∈ first :: keys, k.kind? = some .text := by
        intro k hk
        rw [← hkeys] at hk
        obtain ⟨s, rfl⟩ := exists_text_of_mem_ofEntries hk
        rfl
      have hfirst := hkind first List.mem_cons_self
      rw [List.head?_cons, Option.any_some, hfirst, Option.isSome_some, Bool.true_and,
        List.all_eq_true]
      intro k hk
      rw [hkind k hk]
      rfl

/-! ## Parts -/

/-- A value stands somewhere inside another: it is that value, or stands inside one of its items or under one
of its keys. -/
inductive PartOf : Value → Value → Prop
  | self (v : Value) : PartOf v v
  | item {u v : Value} {items : List Value} : v ∈ items → PartOf u v → PartOf u (.list items)
  | member {u v : Value} {items : List Value} : v ∈ items → PartOf u v → PartOf u (.tuple items)
  | entry {u : Value} {e : Key × Value} {entries : List (Key × Value)} :
      e ∈ entries → PartOf u e.2 → PartOf u (.dict entries)

/-- What stands inside a document is a document, and within its limits. -/
theorem PartOf.exists_ofJson {u v : Value} (h : PartOf u v) {doc : Json} (hv : v = ofJson doc)
    (hlimits : doc.InLimits) : ∃ part, u = ofJson part ∧ part.InLimits := by
  induction h generalizing doc with
  | self => exact ⟨doc, hv, hlimits⟩
  | item hmem _ ih =>
      cases doc with
      | array items =>
          cases hv
          rw [ofItems_eq_map] at hmem
          obtain ⟨x, hx, heq⟩ := List.mem_map.mp hmem
          exact ih heq.symm (hlimits.items x hx)
      | _ => cases hv
  -- No document is a list that cannot be changed.
  | member _ _ _ => cases doc <;> cases hv
  | entry hmem _ ih =>
      cases doc with
      | object entries =>
          cases hv
          rw [ofEntries_eq_map] at hmem
          obtain ⟨e, he, rfl⟩ := List.mem_map.mp hmem
          exact ih rfl (hlimits.values e he)
      | _ => cases hv

/-! ## Whole numbers -/

theorem showInt_eq (n : Int) :
    showInt n = if (Json.int n).longest ≤ Text.digitLimit then .ok (toString n)
      else .error .wrongValue := by
  have hlongest : (Json.int n).longest = (toString n.natAbs).length := by
    rw [Nat.toString_eq_repr, Nat.repr, String.length_ofList]
    rfl
  have hsign : (if n < 0 then "-" ++ toString n.natAbs else toString n.natAbs) = toString n := by
    cases n with
    | ofNat m => rfl
    | negSucc m =>
        rw [if_pos (Int.negSucc_lt_zero m)]
        rfl
  rw [hlongest, showInt, Text.decimal?]
  simp only [hsign]
  by_cases hdigits : (toString n.natAbs).length ≤ Text.digitLimit
  · rw [if_pos hdigits, if_pos hdigits]
  · rw [if_neg hdigits, if_neg hdigits]

/-! ## On one line -/

/-- The entry of an object on one line. -/
def encodedMember (key text : String) : String :=
  jsonString jsonChar key ++ ": " ++ text

mutual

/-- The text of a document on one line. -/
def encoded : Json → String
  | .null => "null"
  | .bool b => if b then "true" else "false"
  | .int n => toString n
  | .float x => x.text jsonWords
  | .text s => jsonString jsonChar s
  | .array items => "[" ++ Text.join ", " (encodedAll items) ++ "]"
  | .object entries => "\x7b" ++ Text.join ", "
      ((sortByName Prod.fst (encodedMembers entries)).map fun e => encodedMember e.1 e.2) ++ "\x7d"

/-- The texts of the items of an array. -/
def encodedAll : List Json → List String
  | [] => []
  | item :: items => encoded item :: encodedAll items

/-- The texts of the values of an object. -/
def encodedMembers : List (String × Json) → List (String × String)
  | [] => []
  | (key, value) :: entries => (key, encoded value) :: encodedMembers entries

end

theorem encoded_array (items : List Json) :
    encoded (.array items) = "[" ++ Text.join ", " (items.map encoded) ++ "]" := by
  have hitems : ∀ items, encodedAll items = items.map encoded := by
    intro items
    induction items with
    | nil => rfl
    | cons x items ih => rw [encodedAll, ih, List.map_cons]
  rw [encoded, hitems]

theorem encoded_object (entries : List (String × Json)) :
    encoded (.object entries) = "\x7b" ++ Text.join ", "
      ((sortByName Prod.fst entries).map fun e => encodedMember e.1 (encoded e.2)) ++ "\x7d" := by
  have hvalues : ∀ entries, encodedMembers entries = entries.map fun e => (e.1, encoded e.2) := by
    intro entries
    induction entries with
    | nil => rfl
    | cons e entries ih => rw [encodedMembers, ih, List.map_cons]
  rw [encoded, hvalues, ← map_sortByName Prod.fst Prod.fst (fun e => (e.1, encoded e.2)) fun _ => rfl,
    List.map_map]
  rfl

theorem encodeItems_eq_mapM (room : Nat) (items : List Value) :
    encodeItems room items = items.mapM (encode room) := by
  induction items with
  | nil => rfl
  | cons x items ih => rw [encodeItems, ih, List.mapM_cons]

theorem encodeValues_eq_map (room : Nat) (entries : List (Key × Value)) :
    encodeValues room entries = entries.map fun e => (e.1, e.2.encode room) := by
  induction entries with
  | nil => rfl
  | cons e entries ih => rw [encodeValues, ih, List.map_cons]

theorem encode_array (room : Nat) (items : List Json) :
    (ofJson (.array items)).encode (room + 1) =
      (items.mapM fun x => (ofJson x).encode room).map fun parts =>
        "[" ++ Text.join ", " parts ++ "]" := by
  rw [ofJson, encode, encodeItems_eq_mapM, ofItems_eq_map, List.mapM_map]
  rfl

theorem encode_object (room : Nat) (entries : List (String × Json)) :
    (ofJson (.object entries)).encode (room + 1) =
      ((sortByName Prod.fst entries).mapM fun e =>
        ((ofJson e.2).encode room).map (encodedMember e.1)).map fun parts =>
          "\x7b" ++ Text.join ", " parts ++ "\x7d" := by
  have hvalues : encodeValues room (ofEntries entries) =
      entries.map fun e => (Key.text e.1, (ofJson e.2).encode room) := by
    rw [encodeValues_eq_map, ofEntries_eq_map, List.map_map]
    rfl
  rw [ofJson, encode, ordered_ofEntries, hvalues, sortEntries_text, if_pos rfl, List.mapM_map]
  rfl

/-- A document whose numbers have no more digits than they may has a text exactly if its values do not
stand too deep inside of each other. -/
theorem encode_ofJson {doc : Json} (h : doc.longest ≤ Text.digitLimit) :
    ∀ room, (ofJson doc).encode room =
      if doc.depth ≤ room then .ok (encoded doc) else .error .tooDeep := by
  induction doc using Json.inductionOn with
  | array items ih =>
      intro room
      cases room with
      | zero => rw [if_neg (Nat.not_le_of_lt (Json.depth_array_pos items))]; rfl
      | succ room =>
          have hitems := fun x hx => ih x hx (Json.longest_array_le_iff.mp h x hx) room
          rw [encode_array, mapM_eq_ite hitems, encoded_array]
          simp only [Json.depth_array_le_iff]
          split <;> rfl
  | object entries ih =>
      intro room
      cases room with
      | zero => rw [if_neg (Nat.not_le_of_lt (Json.depth_object_pos entries))]; rfl
      | succ room =>
          have hmem (e : String × Json) : e ∈ sortByName Prod.fst entries ↔ e ∈ entries :=
            (sortByName_perm Prod.fst entries).mem_iff
          have hvalues : ∀ e ∈ sortByName Prod.fst entries,
              ((ofJson e.2).encode room).map (encodedMember e.1) =
                if e.2.depth ≤ room then .ok (encodedMember e.1 (encoded e.2))
                else .error .tooDeep := by
            intro e he
            have hentry := (hmem e).mp he
            rw [ih e hentry (Json.longest_object_le_iff.mp h e hentry)]
            split <;> rfl
          rw [encode_object, mapM_eq_ite hvalues, encoded_object]
          simp only [Json.depth_object_le_iff, hmem]
          split <;> rfl
  | int n =>
      intro room
      have hdepth : (Json.int n).depth ≤ room := Nat.zero_le room
      rw [ofJson, encode, showInt_eq, if_pos h, if_pos hdepth]
      rfl
  | _ => exact fun room => (if_pos (Nat.zero_le room)).symm

/-- A number with too many digits keeps a document from having a text. -/
theorem longest_le_of_encode {doc : Json} {room : Nat} {s : String}
    (h : (ofJson doc).encode room = .ok s) : doc.longest ≤ Text.digitLimit := by
  induction doc using Json.inductionOn generalizing room s with
  | array items ih =>
      cases room with
      | zero => cases h
      | succ room =>
          rw [encode_array] at h
          obtain ⟨parts, hparts, -⟩ := map_eq_ok_iff.mp h
          refine Json.longest_array_le_iff.mpr fun x hx => ?_
          obtain ⟨part, hpart⟩ := exists_of_mapM_eq_ok hparts hx
          exact ih x hx hpart
  | object entries ih =>
      cases room with
      | zero => cases h
      | succ room =>
          rw [encode_object] at h
          obtain ⟨parts, hparts, -⟩ := map_eq_ok_iff.mp h
          refine Json.longest_object_le_iff.mpr fun e he => ?_
          obtain ⟨part, hpart⟩ := exists_of_mapM_eq_ok hparts
            ((sortByName_perm Prod.fst entries).mem_iff.mpr he)
          obtain ⟨text, htext, -⟩ := map_eq_ok_iff.mp hpart
          exact ih e he htext
  | int n =>
      rw [ofJson, encode, showInt_eq] at h
      split at h
      · assumption
      · cases h
  | _ => exact Nat.zero_le _

/-- Which documents have a text on one line, and which text that is. -/
theorem encode_ofJson_eq_ok_iff {doc : Json} {room : Nat} {s : String} :
    (ofJson doc).encode room = .ok s ↔
      doc.longest ≤ Text.digitLimit ∧ doc.depth ≤ room ∧ encoded doc = s := by
  constructor
  · intro h
    have hdigits := longest_le_of_encode h
    rw [encode_ofJson hdigits] at h
    split at h
    · exact ⟨hdigits, ‹_›, Except.ok.inj h⟩
    · cases h
  · rintro ⟨hdigits, hdepth, rfl⟩
    rw [encode_ofJson hdigits, if_pos hdepth]

/-! ## The order of keys does not show -/

/-- What is written for the entries of an object in the order of their keys does not tell in which
order they came. -/
theorem map_sortByName_eq_of_reordered {β γ : Type} {es fs : List (String × Json)} (g : Json → β)
    (line : String → β → γ) (h : Json.EntriesReordered es fs) (hn : (es.map Prod.fst).Nodup)
    (hg : ∀ e ∈ es, ∀ b, Json.Reordered e.2 b → g e.2 = g b) :
    ((sortByName Prod.fst es).map fun e => line e.1 (g e.2)) =
      (sortByName Prod.fst fs).map fun e => line e.1 (g e.2) := by
  obtain ⟨mid, hmid, hperm⟩ := h
  have hshadow : es.map (fun e => (e.1, g e.2)) = mid.map fun e => (e.1, g e.2) := by
    clear hn hperm
    induction hmid with
    | nil => rfl
    | @cons e f es mid hef _ ih =>
        have hvalue := hg e List.mem_cons_self f.2 hef.2
        simp [hef.1, hvalue, ih fun e' he' => hg e' (List.mem_cons_of_mem e he')]
  have hlines (entries : List (String × Json)) :
      ((sortByName Prod.fst entries).map fun e => line e.1 (g e.2)) =
        (sortByName Prod.fst (entries.map fun e => (e.1, g e.2))).map fun e => line e.1 e.2 := by
    rw [← map_sortByName Prod.fst Prod.fst (fun e => (e.1, g e.2)) fun _ => rfl, List.map_map]
    rfl
  have hnodup : ((es.map fun e => (e.1, g e.2)).map Prod.fst).Nodup := by
    simpa [Function.comp_def] using hn
  rw [hlines es, hlines fs]
  congr 1
  apply sortByName_eq_of_perm Prod.fst _ hnodup
  rw [hshadow]
  exact hperm.map _

theorem map_eq_of_reordered {β : Type} {xs ys : List Json} (g : Json → β)
    (h : Forall₂ Json.Reordered xs ys) (hg : ∀ x ∈ xs, ∀ y, Json.Reordered x y → g x = g y) :
    xs.map g = ys.map g := by
  induction h with
  | nil => rfl
  | @cons x y xs ys hxy _ ih =>
      simp [hg x List.mem_cons_self y hxy, ih fun z hz => hg z (List.mem_cons_of_mem x hz)]

theorem encode_eq_of_reordered {a b : Json} (h : a.Reordered b) (hk : a.KeysOnce) :
    ∀ room, (ofJson a).encode room = (ofJson b).encode room := by
  induction a using Json.inductionOn generalizing b with
  | array xs ih =>
      intro room
      cases h with
      | same => rfl
      | @array _ ys h =>
          cases room with
          | zero => rfl
          | succ room =>
              have hitems := map_eq_of_reordered (fun x => (ofJson x).encode room) h
                fun x hx y hxy => ih x hx hxy (hk.items x hx) room
              rw [encode_array, encode_array, mapM_eq_mapM_id, hitems, ← mapM_eq_mapM_id]
  | object es ih =>
      intro room
      cases h with
      | same => rfl
      | @object _ _ fs hkeys hvalues hperm =>
          cases room with
          | zero => rfl
          | succ room =>
              have hentries := map_sortByName_eq_of_reordered (fun x => (ofJson x).encode room)
                (fun key text => text.map (encodedMember key))
                ⟨_, Json.forall₂_entryReordered hkeys hvalues, hperm⟩ hk.nodup
                fun e he b hb => ih e he hb (hk.entries e he) room
              rw [encode_object, encode_object, mapM_eq_mapM_id, hentries, ← mapM_eq_mapM_id]
  | _ => cases h; exact fun _ => rfl

end TemplateDocs.Value
