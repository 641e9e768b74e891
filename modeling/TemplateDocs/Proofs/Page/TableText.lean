import TemplateDocs.Page.Table
import TemplateDocs.Proofs.Text.Split
import TemplateDocs.Proofs.Text.Unbroken

/-! # The text of a table

A table is read off its text alone: the lines are cut at line feeds and the rows at the pipes that no
backslash stands before. A pipe in a cell never cuts a row, so the text of a table is in order exactly
when no line end stands in its title or in a cell.
-/

namespace TemplateDocs.Table

open Text

/-! ## Rows -/

/-- The parts of a line between the pipes that no backslash stands before; `escaped` says whether one
stands before the line. -/
def splitPipes (escaped : Bool) : List Char → List (List Char)
  | [] => [[]]
  | c :: cs =>
    if c == '|' && !escaped then [] :: splitPipes false cs
    else
      match splitPipes (c == '\\') cs with
      | [] => [[c]]
      | part :: parts => (c :: part) :: parts

/-- How many pipes cut a line. -/
def openPipes (escaped : Bool) : List Char → Nat
  | [] => 0
  | c :: cs => (if c == '|' && !escaped then 1 else 0) + openPipes (c == '\\') cs

/-- Whether a pipe right after the text would be escaped. -/
def escapes (escaped : Bool) : List Char → Bool
  | [] => escaped
  | c :: cs => escapes (c == '\\') cs

theorem length_splitPipes (escaped : Bool) (cs : List Char) :
    (splitPipes escaped cs).length = openPipes escaped cs + 1 := by
  induction cs generalizing escaped with
  | nil => rfl
  | cons c cs ih =>
      rw [splitPipes, openPipes]
      split
      case isTrue hpipe =>
        have hc : (c == '\\') = false := by
          rw [Bool.and_eq_true, beq_iff_eq] at hpipe
          rw [hpipe.1]
          rfl
        rw [List.length_cons, ih, hc]
        omega
      case isFalse =>
        rw [Nat.zero_add, ← ih]
        cases hparts : splitPipes (c == '\\') cs with
        | nil => simpa [hparts] using ih (c == '\\')
        | cons part parts => rfl

theorem openPipes_append (escaped : Bool) (cs ds : List Char) :
    openPipes escaped (cs ++ ds) = openPipes escaped cs + openPipes (escapes escaped cs) ds := by
  induction cs generalizing escaped with
  | nil => simp [openPipes, escapes]
  | cons c cs ih => simp [openPipes, escapes, ih, Nat.add_assoc]

/-- No pipe of a cell cuts the row. -/
theorem openPipes_cell (escaped : Bool) (s : String) : openPipes escaped (cell s).toList = 0 := by
  rw [cell, String.toList_ofList]
  generalize s.toList = cs
  induction cs generalizing escaped with
  | nil => rfl
  | cons c cs ih =>
      rw [List.flatMap_cons, openPipes_append, ih, Nat.add_zero]
      by_cases hc : c = '|'
      · simp [hc, openPipes]
      · simp [hc, openPipes]

theorem openPipes_join (escaped : Bool) (cells : List String) :
    openPipes escaped (join " | " (cells.map cell)).toList = cells.length - 1 := by
  have hbar (b : Bool) (rest : List Char) :
      openPipes b (" | ".toList ++ rest) = openPipes false rest + 1 := by
    simp [openPipes, Nat.add_comm]
  rw [join, String.toList_intercalate, List.map_map]
  induction cells generalizing escaped with
  | nil => rfl
  | cons first cells ih =>
      cases cells with
      | nil => simp [openPipes_cell]
      | cons next cells =>
          have hrest := ih false
          rw [List.map_cons] at hrest
          rw [List.map_cons, List.map_cons, List.intercalate_cons_cons, List.append_assoc,
            openPipes_append, Function.comp_apply, openPipes_cell, hbar, hrest]
          simp

/-- The pieces of a row depend on the number of its cells only. -/
theorem length_splitPipes_row (cells : List String) :
    (splitPipes false (row cells).toList).length = cells.length - 1 + 3 := by
  have hstart (rest : List Char) : openPipes false ("| ".toList ++ rest) = openPipes false rest + 1 := by
    simp [openPipes, Nat.add_comm]
  have hend (b : Bool) : openPipes b " |".toList = 1 := by
    simp [openPipes]
  rw [length_splitPipes, row, String.toList_append, String.toList_append, List.append_assoc, hstart,
    openPipes_append, openPipes_join, hend]

/-! ## Line ends -/

theorem unbroken_cell {s : String} : Unbroken (cell s).toList ↔ Unbroken s.toList := by
  have hchar (c : Char) :
      Unbroken (if c == '|' then ['\\', '|'] else [c]) ↔ isFileLineEnd c = false := by
    by_cases hc : c = '|'
    · subst hc
      decide
    · simp [hc]
  rw [cell, String.toList_ofList, unbroken_flatMap]
  exact forall₂_congr fun c _ => hchar c

theorem unbroken_row {cells : List String} :
    Unbroken (row cells).toList ↔ ∀ s ∈ cells, Unbroken s.toList := by
  have hbar : Unbroken " | ".toList := by decide
  have hstart : Unbroken "| ".toList := by decide
  have hend : Unbroken " |".toList := by decide
  rw [row, String.toList_append, String.toList_append, unbroken_append, unbroken_append,
    unbroken_join hbar, List.forall_mem_map]
  simp only [hstart, hend, true_and, and_true, unbroken_cell]

theorem unbroken_heading {t : Table} : Unbroken t.heading.toList ↔ Unbroken t.title.toList := by
  have hmarks : Unbroken (List.replicate t.level '#') := unbroken_replicate (by decide)
  have hblank : Unbroken " ".toList := by decide
  rw [heading, String.toList_append, String.toList_append, String.toList_ofList, unbroken_append,
    unbroken_append]
  simp only [hmarks, hblank, true_and]

/-- The lines of a table hold no line ends if none stands in the title or in a cell. -/
theorem unbroken_lines_iff {t : Table} (hheaders : ∀ s ∈ t.headers, Unbroken s.toList) :
    (∀ line ∈ t.lines, Unbroken line.toList) ↔
      Unbroken t.title.toList ∧ ∀ cells ∈ t.rows, ∀ s ∈ cells, Unbroken s.toList := by
  have hheader : Unbroken (row t.headers).toList := unbroken_row.mpr hheaders
  have hdashes : Unbroken (row (t.headers.map fun _ => "---")).toList := by
    rw [unbroken_row, List.forall_mem_map]
    exact fun _ _ => by decide
  have hempty : Unbroken "".toList := by decide
  have hrows : (∀ cells ∈ t.rows, Unbroken (row cells).toList) ↔
      ∀ cells ∈ t.rows, ∀ s ∈ cells, Unbroken s.toList := forall₂_congr fun _ _ => unbroken_row
  rw [lines, List.forall_mem_append, List.forall_mem_append, List.forall_mem_map, hrows]
  simp only [List.forall_mem_cons, List.not_mem_nil, false_imp_iff, implies_true, unbroken_heading,
    hheader, hdashes, hempty, and_true]

/-! ## Texts of tables -/

/-- The text of a table: the heading, an empty line, the row of headers, the row of dashes and one line
for each entity, all rows with as many pieces as the headers, and a line feed at the end. -/
structure IsText (heading : String) (entities : Nat) (text : String) : Prop where
  lines : ∃ headers rows, rows.length = entities ∧
    splitOn '\n' text.toList = heading.toList :: [] :: (row headers).toList ::
      (row (headers.map fun _ => "---")).toList :: (rows ++ [[]]) ∧
    ∀ line ∈ (row (headers.map fun _ => "---")).toList :: rows,
      (splitPipes false line).length = (splitPipes false (row headers).toList).length
  noReturn : '\r' ∉ text.toList

theorem isText_iff {t : Table} (hheaders : ∀ s ∈ t.headers, Unbroken s.toList)
    (hrows : ∀ cells ∈ t.rows, cells.length = t.headers.length) :
    IsText t.heading t.rows.length t.text ↔
      Unbroken t.title.toList ∧ ∀ cells ∈ t.rows, ∀ s ∈ cells, Unbroken s.toList := by
  rw [← unbroken_lines_iff hheaders]
  have hne : t.lines.map String.toList ≠ [] := by simp [lines]
  have htext : t.text.toList = ['\n'].intercalate (t.lines.map String.toList) := by
    rw [text, join, String.toList_intercalate]
    rfl
  constructor
  · rintro ⟨⟨headers, rows, hcount, hlines, -⟩, hreturn⟩ line hline
    have hmem := List.mem_map_of_mem (f := String.toList) hline
    -- There are as many pieces as lines, so no line feed is left to stand inside of a line.
    have hlength : (splitOn '\n' (['\n'].intercalate (t.lines.map String.toList))).length =
        (t.lines.map String.toList).length := by
      rw [← htext, hlines]
      simp [lines, hcount]
    have hfeed := not_mem_of_length_splitOn hne hlength _ hmem
    refine unbroken_iff.mpr ⟨hfeed, fun hr => hreturn ?_⟩
    rw [htext]
    exact subset_intercalate hmem hr
  · intro h
    refine ⟨⟨t.headers, t.rows.map fun cells => (row cells).toList, List.length_map _, ?_, ?_⟩, ?_⟩
    · rw [htext, splitOn_intercalate hne]
      · simp [lines]
      · rw [List.forall_mem_map]
        exact fun line hline => (unbroken_iff.mp (h line hline)).1
    · rw [List.forall_mem_cons, List.forall_mem_map]
      simp only [length_splitPipes_row, List.length_map, true_and]
      intro cells hcells
      rw [hrows cells hcells]
    · rw [htext]
      intro hr
      rcases mem_intercalate hr with hsep | ⟨cs, hcs, hr⟩
      · exact absurd hsep (by decide)
      · obtain ⟨line, hline, rfl⟩ := List.mem_map.mp hcs
        exact (unbroken_iff.mp (h line hline)).2 hr

end TemplateDocs.Table
