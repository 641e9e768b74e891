import Mathlib.Data.List.Infix
import Mathlib.Data.List.TakeWhile
import TemplateDocs.Text.Blank
import TemplateDocs.Text.Lines
import TemplateDocs.Text.Search

/-! # What is searched for and what is cut off

A text starts with a mark, or holds it, in the sense of lists. Line ends at the end of a text are blanks,
so it is the same to a search and to the removal of blanks whether they were cut off before.
-/

namespace TemplateDocs.Text

variable {cs ds rest mark : List Char}

/-! ## Searching -/

theorem dropStart?_eq_some_iff {start : List Char} :
    dropStart? start cs = some rest ↔ cs = start ++ rest := by
  fun_induction dropStart? start cs with
  | case1 => simp [eq_comm]
  | case2 => simp
  | case3 a start c cs hc ih => simp [ih, beq_iff_eq.mp hc]
  | case4 a start c cs hc => simpa using fun heq => absurd heq.symm (by simpa using hc)

theorem isSome_dropStart?_iff {start : List Char} :
    (dropStart? start cs).isSome = true ↔ start <+: cs := by
  rw [Option.isSome_iff_exists]
  simp only [dropStart?_eq_some_iff]
  exact exists_congr fun _ => eq_comm

theorem dropStart?_eq_none_iff {start : List Char} : dropStart? start cs = none ↔ ¬ start <+: cs := by
  rw [← isSome_dropStart?_iff, Bool.not_eq_true, Option.isSome_eq_false_iff, Option.isNone_iff_eq_none]

theorem contains_eq_true_iff : contains mark cs = true ↔ mark <:+: cs := by
  unfold contains
  induction cs with
  | nil =>
      rw [cutAt?, Option.isSome_map, isSome_dropStart?_iff, List.prefix_nil, List.infix_nil]
  | cons c cs ih =>
      rw [cutAt?, List.infix_cons_iff]
      cases hstart : dropStart? mark (c :: cs) with
      | some rest =>
          have hstarts : mark <+: c :: cs := isSome_dropStart?_iff.mp (by simp [hstart])
          simp [hstarts]
      | none =>
          simp only [Option.isSome_map, ih, dropStart?_eq_none_iff.mp hstart, false_or]

/-- A text is cut where the mark stands for the first time, and nowhere else. -/
theorem cutAt?_eq_some_iff {before after : List Char} :
    cutAt? mark cs = some (before, after) ↔ cs = before ++ (mark ++ after) ∧
      ∀ q, q <:+ before → q ≠ [] → ¬ mark <+: q ++ (mark ++ after) := by
  induction cs generalizing before after with
  | nil =>
      rw [cutAt?, Option.map_eq_some_iff]
      constructor
      · rintro ⟨rest, hrest, hcut⟩
        cases hcut
        have hnil : [] = mark ++ after := dropStart?_eq_some_iff.mp hrest
        exact ⟨hnil, fun q hq hne => absurd (List.suffix_nil.mp hq) hne⟩
      · rintro ⟨hnil, -⟩
        obtain ⟨rfl, hmark⟩ := List.append_eq_nil_iff.mp hnil.symm
        exact ⟨after, dropStart?_eq_some_iff.mpr hmark.symm, rfl⟩
  | cons c cs ih =>
      rw [cutAt?]
      cases hstart : dropStart? mark (c :: cs) with
      | some rest =>
          have hcs := dropStart?_eq_some_iff.mp hstart
          constructor
          · intro h
            cases h
            exact ⟨hcs, fun q hq hne => absurd (List.suffix_nil.mp hq) hne⟩
          · rintro ⟨heq, hfirst⟩
            cases before with
            | nil => rw [List.append_cancel_left (hcs.symm.trans heq)]
            | cons b before =>
                have hstarts := hfirst (b :: before) List.suffix_rfl (by simp)
                rw [← heq] at hstarts
                exact absurd ⟨rest, hcs.symm⟩ hstarts
      | none =>
          have hnot := dropStart?_eq_none_iff.mp hstart
          constructor
          · intro h
            obtain ⟨⟨front, back⟩, hcut, hpair⟩ := Option.map_eq_some_iff.mp h
            cases hpair
            obtain ⟨rfl, hfirst⟩ := ih.mp hcut
            refine ⟨rfl, fun q hq hne => ?_⟩
            rcases List.suffix_cons_iff.mp hq with rfl | hq
            · exact hnot
            · exact hfirst q hq hne
          · rintro ⟨heq, hfirst⟩
            cases before with
            | nil => exact absurd ⟨after, heq.symm⟩ hnot
            | cons b before =>
                obtain ⟨rfl, hcs⟩ := List.cons.inj heq
                have hcut := ih.mpr ⟨hcs, fun q hq hne => hfirst q (hq.trans (List.suffix_cons _ _)) hne⟩
                exact Option.map_eq_some_iff.mpr ⟨_, hcut, rfl⟩

/-! ## Cutting off the end -/

theorem exists_dropEnd (p : Char → Bool) (cs : List Char) :
    ∃ tail, cs = dropEnd p cs ++ tail ∧ ∀ c ∈ tail, p c = true := by
  refine ⟨(cs.reverse.takeWhile p).reverse, ?_, fun c hc => ?_⟩
  · rw [dropEnd, ← List.reverse_append, List.takeWhile_append_dropWhile, List.reverse_reverse]
  · exact List.mem_takeWhile_imp (List.mem_reverse.mp hc)

theorem dropEnd_append {p : Char → Bool} (h : ∀ c ∈ ds, p c = true) :
    dropEnd p (cs ++ ds) = dropEnd p cs := by
  unfold dropEnd
  rw [List.reverse_append, List.dropWhile_append_of_pos fun c hc => h c (List.mem_reverse.mp hc)]

theorem dropEnd_append_cons {p : Char → Bool} {c : Char} (h : p c = false) (cs ds : List Char) :
    dropEnd p (cs ++ c :: ds) = cs ++ c :: dropEnd p ds := by
  unfold dropEnd
  have hstop : (c :: cs.reverse).dropWhile p = c :: cs.reverse := by rw [List.dropWhile_cons, h]; rfl
  rw [List.reverse_append, List.reverse_cons, List.append_assoc, List.singleton_append,
    List.dropWhile_append, hstop]
  split
  case isTrue hempty => simp [List.isEmpty_iff.mp hempty]
  case isFalse => simp

theorem getLast?_dropEnd {p : Char → Bool} {c : Char} (h : (dropEnd p cs).getLast? = some c) :
    p c = false := by
  rw [dropEnd, List.getLast?_reverse] at h
  have hhead := List.head?_dropWhile_not p cs.reverse
  rw [h] at hhead
  exact hhead

/-- What is cut off at the end does not count for a class that it does not belong to. -/
theorem takeWhile_dropEnd {p q : Char → Bool} (h : ∀ c, p c = true → q c = false) (cs : List Char) :
    (dropEnd p cs).takeWhile q = cs.takeWhile q := by
  obtain ⟨tail, hcs, htail⟩ := exists_dropEnd p cs
  have hnone : tail.takeWhile q = [] := by
    cases tail with
    | nil => rfl
    | cons c tail => simp [h c (htail c List.mem_cons_self)]
  conv_rhs => rw [hcs]
  rw [List.takeWhile_append, hnone, List.append_nil]
  split
  case isTrue hlength => exact (List.takeWhile_prefix q).eq_of_length hlength
  case isFalse => rfl

theorem isBlank_of_isFileLineEnd {c : Char} (h : isFileLineEnd c = true) : isBlank c = true := by
  unfold isFileLineEnd at h
  rcases Bool.or_eq_true_iff.mp h with h | h
  · rw [beq_iff_eq.mp h]
    rfl
  · rw [beq_iff_eq.mp h]
    rfl

theorem trim_append_of_blank (h : ∀ c ∈ ds, isBlank c = true) : trim (cs ++ ds) = trim cs := by
  unfold trim trimRight trimLeft
  rw [List.dropWhile_append]
  split
  case isTrue hempty =>
    have hnil : ds.dropWhile isBlank = [] := List.dropWhile_eq_nil_iff.mpr h
    rw [hnil, List.isEmpty_iff.mp hempty]
  case isFalse => exact dropEnd_append h

/-- A mark that does not reach into the end of a text stands before that end. -/
theorem infix_append_iff_of_not_mem (hne : mark ≠ []) (h : ∀ c ∈ ds, c ∉ mark) :
    mark <:+: cs ++ ds ↔ mark <:+: cs := by
  induction ds using List.reverseRecOn with
  | nil => rw [List.append_nil]
  | append_singleton ds c ih =>
      have hlast : ¬ mark <:+ cs ++ (ds ++ [c]) := by
        rintro ⟨front, heq⟩
        have hend := congrArg List.getLast? heq
        rw [List.getLast?_append_of_ne_nil _ hne, ← List.append_assoc, List.getLast?_concat] at hend
        exact h c (by simp) (List.mem_of_getLast? hend)
      rw [← List.append_assoc, List.infix_concat_iff, List.append_assoc, or_iff_right hlast]
      exact ih fun d hd => h d (List.mem_append_left _ hd)

end TemplateDocs.Text
