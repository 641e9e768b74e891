import Mathlib.Data.Option.Basic
import TemplateDocs.Json.Basic
import TemplateDocs.Proofs.Entries

/-! # Documents up to the order of their keys -/

namespace TemplateDocs.Json

open List

/-! ## Induction over documents -/

/-- Induction with a hypothesis for every item of an array and every value of an object. -/
@[elab_as_elim]
theorem inductionOn {motive : Json → Prop} (doc : Json) (null : motive .null)
    (bool : ∀ b, motive (.bool b)) (int : ∀ n, motive (.int n)) (float : ∀ x, motive (.float x))
    (text : ∀ s, motive (.text s)) (array : ∀ items, (∀ x ∈ items, motive x) → motive (.array items))
    (object : ∀ entries, (∀ e ∈ entries, motive e.2) → motive (.object entries)) : motive doc :=
  match doc with
  | .null => null
  | .bool b => bool b
  | .int n => int n
  | .float x => float x
  | .text s => text s
  | .array items => array items fun x _ => inductionOn x null bool int float text array object
  | .object entries => object entries fun e _ =>
      inductionOn e.2 null bool int float text array object
termination_by sizeOf doc
decreasing_by
  · have := List.sizeOf_lt_of_mem ‹x ∈ items›
    simp only [Json.array.sizeOf_spec]
    omega
  · have := List.sizeOf_lt_of_mem ‹e ∈ entries›
    obtain ⟨k, v⟩ := e
    simp only [Json.object.sizeOf_spec, Prod.mk.sizeOf_spec] at *
    omega

/-! ## Keys that stand once -/

/-- No object of the document, at any depth, has a key twice. -/
inductive KeysOnce : Json → Prop where
  | null : KeysOnce .null
  | bool (b : Bool) : KeysOnce (.bool b)
  | int (n : Int) : KeysOnce (.int n)
  | float (x : Double) : KeysOnce (.float x)
  | text (s : String) : KeysOnce (.text s)
  | array {items : List Json} (h : ∀ x ∈ items, KeysOnce x) : KeysOnce (.array items)
  | object {entries : List (String × Json)} (hn : (entries.map Prod.fst).Nodup)
      (h : ∀ e ∈ entries, KeysOnce e.2) : KeysOnce (.object entries)

theorem KeysOnce.items {items : List Json} (h : KeysOnce (.array items)) :
    ∀ x ∈ items, KeysOnce x := by
  cases h with
  | array h => exact h

theorem KeysOnce.nodup {entries : List (String × Json)} (h : KeysOnce (.object entries)) :
    (entries.map Prod.fst).Nodup := by
  cases h with
  | object hn _ => exact hn

theorem KeysOnce.entries {entries : List (String × Json)} (h : KeysOnce (.object entries)) :
    ∀ e ∈ entries, KeysOnce e.2 := by
  cases h with
  | object _ h => exact h

/-! ## Reordered documents -/

/-- Documents that differ at most in the order of the keys of their objects, at any depth. Arrays
keep their order. -/
inductive Reordered : Json → Json → Prop where
  | same (doc : Json) : Reordered doc doc
  | array {xs ys : List Json} (h : Forall₂ Reordered xs ys) : Reordered (.array xs) (.array ys)
  | object {es mid fs : List (String × Json)} (hkeys : es.map Prod.fst = mid.map Prod.fst)
      (hvalues : Forall₂ Reordered (es.map Prod.snd) (mid.map Prod.snd)) (hperm : mid ~ fs) :
      Reordered (.object es) (.object fs)

/-- Entries with the same keys and reordered values. -/
def EntryReordered (e f : String × Json) : Prop :=
  e.1 = f.1 ∧ Reordered e.2 f.2

/-- Entries that correspond in some order. -/
def EntriesReordered (es fs : List (String × Json)) : Prop :=
  ∃ mid, Forall₂ EntryReordered es mid ∧ mid ~ fs

theorem forall₂_entryReordered {es fs : List (String × Json)}
    (hkeys : es.map Prod.fst = fs.map Prod.fst)
    (hvalues : Forall₂ Reordered (es.map Prod.snd) (fs.map Prod.snd)) :
    Forall₂ EntryReordered es fs := by
  induction es generalizing fs with
  | nil =>
      have hnil : fs = [] := by simpa using hkeys.symm
      rw [hnil]
      exact .nil
  | cons e es ih =>
      cases fs with
      | nil => simp at hkeys
      | cons f fs =>
          simp only [List.map_cons, List.cons.injEq] at hkeys
          rw [List.map_cons, List.map_cons, List.forall₂_cons] at hvalues
          exact .cons ⟨hkeys.1, hvalues.1⟩ (ih hkeys.2 hvalues.2)

theorem EntriesReordered.refl (es : List (String × Json)) : EntriesReordered es es :=
  ⟨es, List.forall₂_same.mpr fun e _ => ⟨rfl, .same e.2⟩, .refl es⟩

theorem Reordered.items {xs ys : List Json} (h : Reordered (.array xs) (.array ys)) :
    Forall₂ Reordered xs ys := by
  cases h with
  | same => exact List.forall₂_same.mpr fun x _ => .same x
  | array h => exact h

theorem Reordered.entries {es fs : List (String × Json)} (h : Reordered (.object es) (.object fs)) :
    EntriesReordered es fs := by
  cases h with
  | same => exact .refl es
  | object hkeys hvalues hperm => exact ⟨_, forall₂_entryReordered hkeys hvalues, hperm⟩

theorem map_fst_eq_of_forall₂ {es fs : List (String × Json)} (h : Forall₂ EntryReordered es fs) :
    es.map Prod.fst = fs.map Prod.fst := by
  induction h with
  | nil => rfl
  | cons hef _ ih => simp [hef.1, ih]

/-! ## Look-ups -/

theorem entryOf?_of_forall₂ {es fs : List (String × Json)} (h : Forall₂ EntryReordered es fs)
    (key : String) : Option.Rel Reordered (entryOf? key es) (entryOf? key fs) := by
  induction h with
  | nil => exact .none
  | @cons e f es fs hef _ ih =>
      obtain ⟨k, a⟩ := e
      obtain ⟨k', b⟩ := f
      obtain ⟨rfl, hab⟩ := hef
      by_cases hk : key = k
      · subst hk
        simpa [entryOf?] using Option.Rel.some hab
      · have hb : (key == k) = false := beq_eq_false_iff_ne.mpr hk
        simpa only [entryOf?, List.lookup_cons, hb] using ih

/-- A look-up finds the same in reordered entries, up to the order of keys further down. -/
theorem EntriesReordered.entryOf? {es fs : List (String × Json)} (h : EntriesReordered es fs)
    (hn : (es.map Prod.fst).Nodup) (key : String) :
    Option.Rel Reordered (entryOf? key es) (TemplateDocs.entryOf? key fs) := by
  obtain ⟨mid, hmid, hperm⟩ := h
  have hn' : (mid.map Prod.fst).Nodup := map_fst_eq_of_forall₂ hmid ▸ hn
  rw [← entryOf?_eq_of_perm hperm hn' key]
  exact entryOf?_of_forall₂ hmid key

theorem EntriesReordered.isEmpty_eq {es fs : List (String × Json)} (h : EntriesReordered es fs) :
    es.isEmpty = fs.isEmpty := by
  obtain ⟨mid, hmid, hperm⟩ := h
  have hlen : es.length = fs.length := hmid.length_eq.trans hperm.length_eq
  cases es <;> cases fs <;> simp_all

/-! ## What does not depend on the order -/

theorem Reordered.text?_eq {a b : Json} (h : Reordered a b) : a.text? = b.text? := by
  cases h <;> rfl

theorem Reordered.kindName_eq {a b : Json} (h : Reordered a b) : a.kindName = b.kindName := by
  cases h <;> rfl

theorem Reordered.truthy_eq {a b : Json} (h : Reordered a b) : a.truthy = b.truthy := by
  cases a with
  | array xs =>
      cases h with
      | same => rfl
      | array h => cases h <;> rfl
  | object es =>
      cases hb : b with
      | object fs =>
          rw [hb] at h
          simp [truthy, h.entries.isEmpty_eq]
      | _ => rw [hb] at h; cases h
  | _ => cases h; rfl

end TemplateDocs.Json
