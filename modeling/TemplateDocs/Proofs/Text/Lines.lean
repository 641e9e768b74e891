import Mathlib.Data.List.Infix
import TemplateDocs.Text.Lines

/-! # Laws of line ends

Replacing line ends once may bring new ones about: where two carriage returns stand before a line
feed, the first of them and the line feed are left next to each other.
-/

namespace TemplateDocs.Text

/-- Two carriage returns and a line feed stand somewhere in the text. -/
def HasDoubleReturn (cs : List Char) : Prop :=
  ['\r', '\r', '\n'] <:+: cs

instance (cs : List Char) : Decidable (HasDoubleReturn cs) :=
  inferInstanceAs (Decidable (['\r', '\r', '\n'] <:+: cs))

theorem not_prefix_of_other {c : Char} {rest : List Char}
    (hne : ∀ tail, c = '\r' → rest = '\n' :: tail → False) : ¬ ['\r', '\n'] <+: c :: rest := by
  rintro ⟨tail, htail⟩
  simp only [List.cons_append, List.nil_append, List.cons.injEq] at htail
  exact hne tail htail.1.symm htail.2.symm

/-- A text is left as it is when no line end of two characters stands in it. -/
theorem crlfToLf_eq_self_iff (cs : List Char) : crlfToLf cs = cs ↔ ¬ ['\r', '\n'] <:+: cs := by
  fun_induction crlfToLf cs with
  | case1 => simp
  | case2 rest ih =>
      have hshort : '\n' :: crlfToLf rest ≠ '\r' :: '\n' :: rest := by simp
      have hinfix : ['\r', '\n'] <:+: '\r' :: '\n' :: rest := ⟨[], rest, rfl⟩
      simp [hshort, hinfix]
  | case3 c rest hne ih =>
      rw [List.infix_cons_iff, or_iff_right (not_prefix_of_other hne), ← ih, List.cons.injEq, eq_self, true_and]

theorem lineFeed_prefix_crlfToLf_iff (cs : List Char) :
    ['\n'] <+: crlfToLf cs ↔ ['\n'] <+: cs ∨ ['\r', '\n'] <+: cs := by
  fun_cases crlfToLf cs with
  | case1 => simp
  | case2 rest => simp
  | case3 c rest hne =>
      rw [or_iff_left (not_prefix_of_other hne)]
      simp [List.cons_prefix_cons]

theorem infix_crlfToLf_iff (cs : List Char) :
    ['\r', '\n'] <:+: crlfToLf cs ↔ HasDoubleReturn cs := by
  unfold HasDoubleReturn
  fun_induction crlfToLf cs with
  | case1 => simp
  | case2 rest ih =>
      rw [List.infix_cons_iff, List.infix_cons_iff, List.infix_cons_iff, ← ih]
      simp
  | case3 c rest hne ih =>
      have hhead : ['\r', '\n'] <+: c :: crlfToLf rest ↔ ['\r', '\r', '\n'] <+: c :: rest := by
        rw [List.cons_prefix_cons, List.cons_prefix_cons, lineFeed_prefix_crlfToLf_iff]
        refine and_congr_right ?_
        rintro rfl
        -- This case leaves no line feed right after the carriage return.
        refine or_iff_right ?_
        rintro ⟨tail, rfl⟩
        exact hne tail rfl rfl
      rw [List.infix_cons_iff, List.infix_cons_iff, hhead, ih]

/-- Replacing line ends a second time changes something only where two carriage returns stood before
a line feed. -/
theorem crlfToLf_crlfToLf_iff (cs : List Char) :
    crlfToLf (crlfToLf cs) = crlfToLf cs ↔ ¬ HasDoubleReturn cs := by
  rw [crlfToLf_eq_self_iff, infix_crlfToLf_iff]

/-! ## Carriage returns that stand alone -/

/-- Every carriage return of the text stands right before a line feed. -/
def ReturnsPaired (cs : List Char) : Prop :=
  ∀ rest, '\r' :: rest <:+ cs → ['\n'] <+: rest

theorem ReturnsPaired.of_not_mem {cs : List Char} (h : '\r' ∉ cs) : ReturnsPaired cs :=
  fun _ hrest => absurd (hrest.subset List.mem_cons_self) h

theorem returnsPaired_cons {c : Char} {cs : List Char} :
    ReturnsPaired (c :: cs) ↔ (c = '\r' → ['\n'] <+: cs) ∧ ReturnsPaired cs := by
  simp only [ReturnsPaired, List.suffix_cons_iff, List.cons.injEq]
  constructor
  · intro h
    exact ⟨fun hc => h cs (.inl ⟨hc.symm, rfl⟩), fun rest hrest => h rest (.inr hrest)⟩
  · rintro ⟨hhead, htail⟩ rest (⟨hc, rfl⟩ | hrest)
    · exact hhead hc.symm
    · exact htail rest hrest

/-- Replacing the line ends of two characters leaves the carriage returns that stand alone. -/
theorem return_not_mem_crlfToLf_iff (cs : List Char) : '\r' ∉ crlfToLf cs ↔ ReturnsPaired cs := by
  fun_induction crlfToLf cs with
  | case1 => exact iff_of_true List.not_mem_nil (.of_not_mem List.not_mem_nil)
  | case2 rest ih => simp [returnsPaired_cons, ih]
  | case3 c rest hne ih =>
      have halone : c = '\r' → ¬ ['\n'] <+: rest := by
        rintro rfl ⟨tail, rfl⟩
        exact hne tail rfl rfl
      rw [returnsPaired_cons, List.mem_cons, not_or, ih]
      refine and_congr_left fun _ => ?_
      exact ⟨fun hc heq => absurd heq.symm hc, fun h heq => halone heq.symm (h heq.symm)⟩

end TemplateDocs.Text
