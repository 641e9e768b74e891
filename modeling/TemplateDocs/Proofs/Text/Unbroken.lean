import TemplateDocs.Proofs.Text.Lines
import TemplateDocs.Text.LowerCase
import TemplateDocs.Text.Search

/-! # Texts without line ends

Cutting a text, putting texts together and changing their case brings no line end about.
-/

namespace TemplateDocs.Text

/-- No line feed and no carriage return stands in the text. -/
def Unbroken (cs : List Char) : Prop :=
  ∀ c ∈ cs, isFileLineEnd c = false

instance (cs : List Char) : Decidable (Unbroken cs) :=
  List.decidableBAll (fun c => isFileLineEnd c = false) cs

section Unbroken

variable {c : Char} {cs ds : List Char}

/-! ## Putting texts together -/

theorem isFileLineEnd_eq_false_iff : isFileLineEnd c = false ↔ c ≠ '\n' ∧ c ≠ '\r' := by
  simp [isFileLineEnd]

@[simp] theorem unbroken_nil : Unbroken [] := by
  simp [Unbroken]

@[simp] theorem unbroken_cons : Unbroken (c :: cs) ↔ isFileLineEnd c = false ∧ Unbroken cs :=
  List.forall_mem_cons

@[simp] theorem unbroken_append : Unbroken (cs ++ ds) ↔ Unbroken cs ∧ Unbroken ds :=
  List.forall_mem_append

theorem unbroken_iff : Unbroken cs ↔ '\n' ∉ cs ∧ '\r' ∉ cs := by
  simp only [Unbroken, isFileLineEnd_eq_false_iff]
  constructor
  · exact fun h => ⟨fun hmem => (h _ hmem).1 rfl, fun hmem => (h _ hmem).2 rfl⟩
  · rintro ⟨hfeed, hreturn⟩ c hc
    exact ⟨fun heq => hfeed (heq ▸ hc), fun heq => hreturn (heq ▸ hc)⟩

theorem Unbroken.of_subset (h : Unbroken cs) (hsub : ds ⊆ cs) : Unbroken ds :=
  fun c hc => h c (hsub hc)

theorem unbroken_flatMap {α : Type} {xs : List α} {f : α → List Char} :
    Unbroken (xs.flatMap f) ↔ ∀ x ∈ xs, Unbroken (f x) := by
  simp only [Unbroken, List.mem_flatMap, forall_exists_index, and_imp]
  exact ⟨fun h x hx c hc => h c x hx hc, fun h c x hx hc => h x hx c hc⟩

theorem unbroken_replicate {n : Nat} (hc : isFileLineEnd c = false) :
    Unbroken (List.replicate n c) := by
  intro d hd
  rw [List.eq_of_mem_replicate hd]
  exact hc

theorem mem_intercalate {sep : List Char} {parts : List (List Char)} {c : Char}
    (h : c ∈ sep.intercalate parts) : c ∈ sep ∨ ∃ part ∈ parts, c ∈ part := by
  induction parts with
  | nil => simp at h
  | cons part parts ih =>
      cases parts with
      | nil => exact .inr ⟨part, List.mem_singleton_self part, by simpa using h⟩
      | cons next parts =>
          rw [List.intercalate_cons_cons, List.mem_append, List.mem_append] at h
          rcases h with (hpart | hsep) | hrest
          · exact .inr ⟨part, List.mem_cons_self, hpart⟩
          · exact .inl hsep
          · refine (ih hrest).imp id ?_
            rintro ⟨p, hp, hc⟩
            exact ⟨p, List.mem_cons_of_mem part hp, hc⟩

theorem subset_intercalate {sep part : List Char} {parts : List (List Char)} (h : part ∈ parts) :
    part ⊆ sep.intercalate parts := by
  induction parts with
  | nil => cases h
  | cons first parts ih =>
      cases parts with
      | nil => simp [List.mem_singleton.mp h]
      | cons next parts =>
          rw [List.intercalate_cons_cons]
          rcases List.mem_cons.mp h with rfl | hrest
          · exact fun c hc => List.mem_append_left _ (List.mem_append_left _ hc)
          · exact fun c hc => List.mem_append_right _ (ih hrest hc)

theorem unbroken_join {sep : String} (hsep : Unbroken sep.toList) {parts : List String} :
    Unbroken (join sep parts).toList ↔ ∀ part ∈ parts, Unbroken part.toList := by
  rw [join, String.toList_intercalate]
  constructor
  · intro h part hpart
    exact h.of_subset (subset_intercalate (List.mem_map_of_mem hpart))
  · intro h c hc
    rcases mem_intercalate hc with hc | ⟨cs, hcs, hc⟩
    · exact hsep c hc
    · obtain ⟨part, hpart, rfl⟩ := List.mem_map.mp hcs
      exact h part hpart c hc

/-! ## Lines -/

/-- The lines of a file hold no line ends. -/
theorem unbroken_of_mem_splitLines {line : List Char} (h : line ∈ splitLines isFileLineEnd cs) :
    Unbroken line := by
  fun_induction splitLines isFileLineEnd cs generalizing line with
  | case1 => cases h
  | case2 rest ih =>
      rcases List.mem_cons.mp h with rfl | h
      · exact unbroken_nil
      · exact ih h
  | case3 c rest _ _ ih =>
      rcases List.mem_cons.mp h with rfl | h
      · exact unbroken_nil
      · exact ih h
  | case4 c rest _ hc _ ih =>
      rw [List.mem_singleton.mp h]
      simpa using hc
  | case5 c rest _ hc first others hrest ih =>
      rw [hrest] at ih
      rcases List.mem_cons.mp h with rfl | h
      · simpa using ⟨by simpa using hc, ih List.mem_cons_self⟩
      · exact ih (List.mem_cons_of_mem first h)

/-! ## Lower case -/

theorem isFileLineEnd_of_lt (h : 13 < c.toNat) : isFileLineEnd c = false := by
  rw [isFileLineEnd_eq_false_iff]
  constructor
  · rintro rfl
    exact absurd h (by decide)
  · rintro rfl
    exact absurd h (by decide)

theorem isFileLineEnd_ofNat {n : Nat} (h : 13 < n) : isFileLineEnd (Char.ofNat n) = false := by
  by_cases hvalid : n.isValidChar
  · rw [Char.ofNat, dif_pos hvalid]
    exact isFileLineEnd_of_lt h
  · rw [Char.ofNat, dif_neg hvalid]
    decide

theorem caseRuns_above : ∀ r ∈ caseRuns, (13 : Int) < r.first + r.shift := by
  decide +kernel

theorem isFileLineEnd_lowerChar (h : isFileLineEnd c = false) :
    isFileLineEnd (lowerChar c) = false := by
  unfold lowerChar
  split
  · unfold Char.toLower
    split
    · exact isFileLineEnd_of_lt (by simp; omega)
    · exact h
  · split
    · rename_i r hfind
      -- The table moves no character down to the line ends.
      have hmem := List.mem_of_find?_eq_some hfind
      have hfirst := List.find?_some hfind
      simp only [Bool.and_eq_true, decide_eq_true_eq] at hfirst
      have habove := caseRuns_above r hmem
      exact isFileLineEnd_ofNat (by omega)
    · exact h

theorem unbroken_lowerAfter (before : List Char) (h : Unbroken cs) :
    Unbroken (lowerAfter before cs) := by
  induction cs generalizing before with
  | nil => exact unbroken_nil
  | cons c cs ih =>
      rw [unbroken_cons] at h
      rw [lowerAfter, unbroken_append]
      refine ⟨?_, ih (c :: before) h.2⟩
      split
      · split <;> decide
      · split
        · decide
        · simpa using isFileLineEnd_lowerChar h.1

theorem unbroken_lower {s : String} (h : Unbroken s.toList) : Unbroken (lower s).toList := by
  rw [lower, String.toList_ofList]
  exact unbroken_lowerAfter [] h

end Unbroken

end TemplateDocs.Text
