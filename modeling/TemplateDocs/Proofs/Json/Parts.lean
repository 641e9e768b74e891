import TemplateDocs.Proofs.Json.Reordering
import TemplateDocs.Text.Digit

/-! # The parts of a document

Properties that hold of a document at every depth, the size of a document, what stands under its keys, and
documents with their keys in order.
-/

namespace TemplateDocs.Json

open List

/-! ## What holds at every depth -/

mutual

/-- Whether a property holds of a document and of all documents in it. -/
def all (p : Json → Bool) : Json → Bool
  | array items => p (array items) && allItems p items
  | object entries => p (object entries) && allValues p entries
  | doc => p doc

/-- Whether a property holds in all items of an array. -/
def allItems (p : Json → Bool) : List Json → Bool
  | [] => true
  | item :: items => all p item && allItems p items

/-- Whether a property holds in all values of an object. -/
def allValues (p : Json → Bool) : List (String × Json) → Bool
  | [] => true
  | (_, value) :: entries => all p value && allValues p entries

end

theorem allItems_eq (p : Json → Bool) (items : List Json) : allItems p items = items.all (all p) := by
  induction items with
  | nil => rfl
  | cons x items ih => rw [allItems, ih, List.all_cons]

theorem allValues_eq (p : Json → Bool) (entries : List (String × Json)) :
    allValues p entries = entries.all fun e => all p e.2 := by
  induction entries with
  | nil => rfl
  | cons e entries ih => rw [allValues, ih, List.all_cons]

theorem all_array (p : Json → Bool) (items : List Json) :
    all p (array items) = (p (array items) && items.all (all p)) := by
  rw [all, allItems_eq]

theorem all_object (p : Json → Bool) (entries : List (String × Json)) :
    all p (object entries) = (p (object entries) && entries.all fun e => all p e.2) := by
  rw [all, allValues_eq]

/-- Whether no number in the document has a fraction or an exponent. -/
def isExact : Json → Bool :=
  all fun
    | float _ => false
    | _ => true

theorem isExact_array (items : List Json) : isExact (array items) = items.all isExact := by
  rw [isExact, all_array, Bool.true_and]

theorem isExact_object (entries : List (String × Json)) :
    isExact (object entries) = entries.all fun e => isExact e.2 := by
  rw [isExact, all_object, Bool.true_and]

/-! ## How large a document is -/

mutual

/-- The largest measure of what stands in a document, where each array and each object around it adds
`around`. -/
def most (leaf : Json → Nat) (around : Nat) : Json → Nat
  | array items => mostItems leaf around items + around
  | object entries => mostValues leaf around entries + around
  | doc => leaf doc

/-- The largest measure among the items of an array. -/
def mostItems (leaf : Json → Nat) (around : Nat) : List Json → Nat
  | [] => 0
  | item :: items => max (most leaf around item) (mostItems leaf around items)

/-- The largest measure among the values of an object. -/
def mostValues (leaf : Json → Nat) (around : Nat) : List (String × Json) → Nat
  | [] => 0
  | (_, value) :: entries => max (most leaf around value) (mostValues leaf around entries)

end

section Most

variable {leaf : Json → Nat} {around n : Nat}

theorem mostItems_le_iff {items : List Json} :
    mostItems leaf around items ≤ n ↔ ∀ x ∈ items, most leaf around x ≤ n := by
  induction items with
  | nil => simp [mostItems]
  | cons x items ih => rw [mostItems, Nat.max_le, ih, List.forall_mem_cons]

theorem mostValues_le_iff {entries : List (String × Json)} :
    mostValues leaf around entries ≤ n ↔ ∀ e ∈ entries, most leaf around e.2 ≤ n := by
  induction entries with
  | nil => simp [mostValues]
  | cons e entries ih => rw [mostValues, Nat.max_le, ih, List.forall_mem_cons]

theorem most_array_le_iff {items : List Json} :
    most leaf around (array items) ≤ n + around ↔ ∀ x ∈ items, most leaf around x ≤ n := by
  rw [most, Nat.add_le_add_iff_right, mostItems_le_iff]

theorem most_object_le_iff {entries : List (String × Json)} :
    most leaf around (object entries) ≤ n + around ↔ ∀ e ∈ entries, most leaf around e.2 ≤ n := by
  rw [most, Nat.add_le_add_iff_right, mostValues_le_iff]

end Most

/-- The most digits of a whole number in the document. -/
def longest : Json → Nat :=
  most (fun
    | int n => (Nat.toDigits 10 n.natAbs).length
    | _ => 0) 0

theorem longest_array_le_iff {items : List Json} {n : Nat} :
    (array items).longest ≤ n ↔ ∀ x ∈ items, x.longest ≤ n :=
  most_array_le_iff

theorem longest_object_le_iff {entries : List (String × Json)} {n : Nat} :
    (object entries).longest ≤ n ↔ ∀ e ∈ entries, e.2.longest ≤ n :=
  most_object_le_iff

/-- The most arrays and objects that stand inside of each other. -/
def depth : Json → Nat :=
  most (fun _ => 0) 1

theorem depth_array_le_iff {items : List Json} {n : Nat} :
    (array items).depth ≤ n + 1 ↔ ∀ x ∈ items, x.depth ≤ n :=
  most_array_le_iff

theorem depth_object_le_iff {entries : List (String × Json)} {n : Nat} :
    (object entries).depth ≤ n + 1 ↔ ∀ e ∈ entries, e.2.depth ≤ n :=
  most_object_le_iff

theorem depth_array_pos (items : List Json) : 0 < (array items).depth := by
  rw [depth, most]
  exact Nat.succ_pos _

theorem depth_object_pos (entries : List (String × Json)) : 0 < (object entries).depth := by
  rw [depth, most]
  exact Nat.succ_pos _

/-! ## Documents within the limits of the reader -/

/-- No whole number has too many digits, and no values stand too deep inside of others. -/
structure InLimits (doc : Json) : Prop where
  digits : doc.longest ≤ Text.digitLimit
  depth : doc.depth ≤ callLimit

theorem InLimits.items {items : List Json} (h : (array items).InLimits) :
    ∀ x ∈ items, x.InLimits := by
  intro x hx
  refine ⟨longest_array_le_iff.mp h.digits x hx, ?_⟩
  exact Nat.le_succ_of_le (depth_array_le_iff.mp h.depth x hx)

theorem InLimits.values {entries : List (String × Json)} (h : (object entries).InLimits) :
    ∀ e ∈ entries, e.2.InLimits := by
  intro e he
  refine ⟨longest_object_le_iff.mp h.digits e he, ?_⟩
  exact Nat.le_succ_of_le (depth_object_le_iff.mp h.depth e he)

/-! ## What stands under a key -/

/-- The entries of the object under a key; there are none if it is missing. -/
def entriesAt (doc : Json) (key : String) : List (String × Json) :=
  (doc.get key).entries?.getD []

/-- The items of the array under a key; there are none if it is missing. -/
def itemsAt (doc : Json) (key : String) : List Json :=
  (doc.get key).items?.getD []

theorem KeysOnce.get {doc : Json} (h : doc.KeysOnce) (key : String) : (doc.get key).KeysOnce := by
  cases doc with
  | object entries =>
      have hmem := entryOf?_eq_some_iff h.nodup key
      simp only [Json.get, Json.get?, Json.entries?, Option.bind_some]
      cases hfound : entryOf? key entries with
      | none => exact .null
      | some v => exact h.entries _ ((hmem v).mp hfound)
  | _ => exact .null

theorem KeysOnce.entriesAt {doc : Json} (h : doc.KeysOnce) (key : String) :
    KeysOnce (.object (doc.entriesAt key)) := by
  have hvalue := h.get key
  unfold Json.entriesAt
  generalize doc.get key = v at hvalue
  cases v with
  | object entries => exact hvalue
  | _ => exact .object (by simp [Json.entries?]) (by simp [Json.entries?])

theorem inLimits_null : null.InLimits :=
  ⟨Nat.zero_le _, Nat.zero_le _⟩

theorem InLimits.get {doc : Json} (h : doc.InLimits) (key : String) : (doc.get key).InLimits := by
  cases doc with
  | object entries =>
      simp only [Json.get, Json.get?, Json.entries?, Option.bind_some]
      cases hfound : entryOf? key entries with
      | none => exact inLimits_null
      | some v => exact h.values _ (mem_of_entryOf?_eq_some hfound)
  | _ => exact inLimits_null

theorem InLimits.itemsAt {doc : Json} (h : doc.InLimits) (key : String) :
    ∀ x ∈ doc.itemsAt key, x.InLimits := by
  have hvalue := h.get key
  unfold Json.itemsAt
  generalize doc.get key = v at hvalue
  cases v with
  | array items => exact hvalue.items
  | _ => simp [Json.items?]

theorem InLimits.entriesAt {doc : Json} (h : doc.InLimits) (key : String) :
    ∀ e ∈ doc.entriesAt key, e.2.InLimits := by
  have hvalue := h.get key
  unfold Json.entriesAt
  generalize doc.get key = v at hvalue
  cases v with
  | object entries => exact hvalue.values
  | _ => simp [Json.entries?]

/-! ## Keys in order -/

mutual

/-- The document with the entries of its objects in the order of their keys, at every depth. -/
def sortKeys : Json → Json
  | array items => array (sortItems items)
  | object entries => object (sortByName Prod.fst (sortValues entries))
  | doc => doc

/-- Items with their keys in order. -/
def sortItems : List Json → List Json
  | [] => []
  | item :: items => sortKeys item :: sortItems items

/-- Entries whose values have their keys in order. -/
def sortValues : List (String × Json) → List (String × Json)
  | [] => []
  | (key, value) :: entries => (key, sortKeys value) :: sortValues entries

end

theorem sortItems_eq (items : List Json) : sortItems items = items.map sortKeys := by
  induction items with
  | nil => rfl
  | cons x items ih => rw [sortItems, ih, List.map_cons]

theorem sortValues_eq (entries : List (String × Json)) :
    sortValues entries = entries.map fun e => (e.1, sortKeys e.2) := by
  induction entries with
  | nil => rfl
  | cons e entries ih => rw [sortValues, ih, List.map_cons]

theorem sortKeys_array (items : List Json) : sortKeys (array items) = array (items.map sortKeys) := by
  rw [sortKeys, sortItems_eq]

/-- The entries are sorted, then their values. -/
theorem sortKeys_object (entries : List (String × Json)) :
    sortKeys (object entries) =
      object ((sortByName Prod.fst entries).map fun e => (e.1, sortKeys e.2)) := by
  rw [sortKeys, sortValues_eq,
    map_sortByName Prod.fst Prod.fst (fun e => (e.1, sortKeys e.2)) fun _ => rfl]

theorem reordered_sortKeys (doc : Json) : doc.Reordered doc.sortKeys := by
  induction doc using inductionOn with
  | array items ih =>
      rw [sortKeys_array]
      exact .array (List.forall₂_map_right_iff.mpr (List.forall₂_same.mpr ih))
  | object entries ih =>
      rw [sortKeys, sortValues_eq]
      refine .object ?_ ?_ (sortByName_perm Prod.fst (entries.map fun e => (e.1, sortKeys e.2))).symm
      · simp [Function.comp_def]
      · rw [List.map_map, List.forall₂_map_left_iff, List.forall₂_map_right_iff]
        exact List.forall₂_same.mpr ih
  | _ => exact .same _

end TemplateDocs.Json
