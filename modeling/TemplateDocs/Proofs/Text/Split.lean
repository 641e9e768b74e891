import Mathlib.Data.List.Basic
import TemplateDocs.Text.Search

/-! # Cutting texts at a separator

Parts that do not hold the separator are got back from their text, and a text has one part more than
it has separators.
-/

namespace TemplateDocs.Text

theorem splitOn_of_not_mem {sep : Char} {cs : List Char} (h : sep ∉ cs) : splitOn sep cs = [cs] := by
  induction cs with
  | nil => rfl
  | cons c cs ih =>
      rw [List.mem_cons, not_or] at h
      simp [splitOn, Ne.symm h.1, ih h.2]

theorem splitOn_append_cons {sep : Char} {cs : List Char} (h : sep ∉ cs) (rest : List Char) :
    splitOn sep (cs ++ sep :: rest) = cs :: splitOn sep rest := by
  induction cs with
  | nil => simp [splitOn]
  | cons c cs ih =>
      rw [List.mem_cons, not_or] at h
      simp [splitOn, Ne.symm h.1, ih h.2]

theorem splitOn_intercalate {sep : Char} {parts : List (List Char)} (hne : parts ≠ [])
    (h : ∀ part ∈ parts, sep ∉ part) : splitOn sep ([sep].intercalate parts) = parts := by
  induction parts with
  | nil => exact absurd rfl hne
  | cons part parts ih =>
      have hpart := h part List.mem_cons_self
      cases parts with
      | nil => rw [List.intercalate_singleton, splitOn_of_not_mem hpart]
      | cons next parts =>
          have hrest := ih (by simp) fun p hp => h p (List.mem_cons_of_mem part hp)
          rw [List.intercalate_cons_cons, List.append_assoc, List.singleton_append,
            splitOn_append_cons hpart, hrest]

theorem not_mem_of_mem_splitOn {sep : Char} {cs part : List Char} (h : part ∈ splitOn sep cs) :
    sep ∉ part := by
  induction cs generalizing part with
  | nil =>
      rw [List.mem_singleton.mp h]
      exact List.not_mem_nil
  | cons c cs ih =>
      rw [splitOn] at h
      split at h
      · rcases List.mem_cons.mp h with rfl | h
        · exact List.not_mem_nil
        · exact ih h
      · rename_i hc
        have hne : sep ≠ c := fun heq => hc (by simp [heq])
        split at h
        · rw [List.mem_singleton.mp h]
          simpa using hne
        · rename_i first others hcs
          rw [hcs] at ih
          rcases List.mem_cons.mp h with rfl | h
          · simpa [hne] using ih List.mem_cons_self
          · exact ih (List.mem_cons_of_mem first h)

theorem length_splitOn (sep : Char) (cs : List Char) :
    (splitOn sep cs).length = cs.count sep + 1 := by
  induction cs with
  | nil => rfl
  | cons c cs ih =>
      rw [splitOn]
      split
      case isTrue hc => simp [beq_iff_eq.mp hc, ih]
      case isFalse hc =>
        have hcount : (c :: cs).count sep = cs.count sep := List.count_cons_of_ne (by simpa using hc)
        rw [hcount, ← ih]
        cases hparts : splitOn sep cs with
        | nil => simp [hparts] at ih
        | cons part parts => rfl

/-- The separators of joined parts are those between the parts and those in them. -/
theorem count_intercalate (sep : Char) {parts : List (List Char)} (hne : parts ≠ []) :
    ([sep].intercalate parts).count sep + 1 = parts.length + parts.flatten.count sep := by
  induction parts with
  | nil => exact absurd rfl hne
  | cons part parts ih =>
      cases parts with
      | nil =>
          rw [List.intercalate_singleton, List.flatten_singleton, List.length_singleton]
          omega
      | cons next parts =>
          have hrest := ih (by simp)
          rw [List.intercalate_cons_cons, List.count_append, List.count_append,
            List.count_singleton_self, List.flatten_cons, List.count_append, List.length_cons]
          omega

/-- Only parts without the separator are as many as those of their joined text. -/
theorem not_mem_of_length_splitOn {sep : Char} {parts : List (List Char)} (hne : parts ≠ [])
    (h : (splitOn sep ([sep].intercalate parts)).length = parts.length) :
    ∀ part ∈ parts, sep ∉ part := by
  have hcount := count_intercalate sep hne
  rw [length_splitOn] at h
  have hnone : parts.flatten.count sep = 0 := by omega
  intro part hpart hmem
  exact List.count_eq_zero.mp hnone (List.mem_flatten_of_mem hpart hmem)

/-! ## Putting lines together -/

/-- A line feed in front of every line instead of between them. -/
theorem newline_intercalate {lines : List (List Char)} (h : lines ≠ []) :
    '\n' :: ['\n'].intercalate lines = lines.flatMap ('\n' :: ·) := by
  induction lines with
  | nil => exact absurd rfl h
  | cons line lines ih =>
      cases lines with
      | nil => simp
      | cons next lines =>
          rw [List.intercalate_cons_cons, List.flatMap_cons, ← ih (by simp)]
          simp

/-- The last parts of a joined text are joined in the same way. -/
theorem intercalate_suffix (sep : List Char) (front : List (List Char)) {parts : List (List Char)}
    (hne : parts ≠ []) : sep.intercalate parts <:+ sep.intercalate (front ++ parts) := by
  induction front with
  | nil => exact List.suffix_rfl
  | cons part front ih =>
      obtain ⟨first, rest, hparts⟩ := List.exists_cons_of_ne_nil (l := front ++ parts) (by simp [hne])
      rw [List.cons_append, hparts, List.intercalate_cons_cons, ← hparts]
      exact ih.trans (List.suffix_append _ _)

/-- A joined text starts with its first part. -/
theorem prefix_intercalate (sep first : List Char) (parts : List (List Char)) :
    first <+: sep.intercalate (first :: parts) := by
  cases parts with
  | nil => simp
  | cons next parts =>
      rw [List.intercalate_cons_cons, List.append_assoc]
      exact List.prefix_append _ _

/-- The separator aside, a law of characters holds for a text if it holds for the parts. -/
theorem forall_mem_splitOn {P : Char → Prop} {sep : Char} (hsep : P sep) (cs : List Char) :
    (∀ part ∈ splitOn sep cs, ∀ c ∈ part, P c) ↔ ∀ c ∈ cs, P c := by
  induction cs with
  | nil => simp [splitOn]
  | cons c cs ih =>
      rw [splitOn, List.forall_mem_cons, ← ih]
      split
      · rename_i heq
        rw [beq_iff_eq.mp heq]
        simp [hsep]
      · cases splitOn sep cs with
        | nil => simp
        | cons part parts => simp [and_assoc]

end TemplateDocs.Text
