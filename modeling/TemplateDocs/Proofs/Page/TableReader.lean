import TemplateDocs.Proofs.Page.TableText

/-! # Tables are read back

A reader for tables: the lines are cut at line feeds, a row at the pipes that no backslash stands before,
and each cell stands between two blanks with its pipes escaped. What it reads from the text of a table
are the headers and the rows, whatever pipes, backslashes and blanks stand in the cells.
-/

namespace TemplateDocs.Table

open Text

/-! ## The reader -/

/-- A text without the backslash before each pipe. -/
def unescape : List Char → List Char
  | '\\' :: '|' :: cs => '|' :: unescape cs
  | c :: cs => c :: unescape cs
  | [] => []

/-- What stands between a blank at the start and one at the end. -/
def unpad? : List Char → Option (List Char)
  | ' ' :: cs => if cs.getLast? = some ' ' then some cs.dropLast else none
  | _ => none

/-- The text of a cell. -/
def readCell? (piece : List Char) : Option String :=
  (unpad? piece).map fun cs => String.ofList (unescape cs)

/-- The cells of a row, which starts and ends with a pipe. -/
def readRow? (line : List Char) : Option (List String) :=
  match splitPipes false line with
  | [] :: pieces => if pieces.getLast? = some [] then pieces.dropLast.mapM readCell? else none
  | _ => none

/-- The headers and the rows of a table, after its heading and with a row of dashes between them. -/
def read? (text : String) : Option (List String × List (List String)) :=
  match splitOn '\n' text.toList with
  | _ :: [] :: headers :: _ :: lines =>
    if lines.getLast? = some [] then do
      return (← readRow? headers, ← lines.dropLast.mapM readRow?)
    else none
  | _ => none

/-! ## Cells -/

/-- The characters of a cell with their pipes escaped. -/
def escaped (cs : List Char) : List Char :=
  cs.flatMap fun c => if c == '|' then ['\\', '|'] else [c]

theorem toList_cell (s : String) : (cell s).toList = escaped s.toList :=
  String.toList_ofList

theorem escaped_pipe (cs : List Char) : escaped ('|' :: cs) = '\\' :: '|' :: escaped cs :=
  rfl

theorem escaped_cons {c : Char} (hc : c ≠ '|') (cs : List Char) :
    escaped (c :: cs) = c :: escaped cs := by
  simp [escaped, hc]

/-- An escaped text never starts with a pipe, so a backslash of the text itself is not taken for an
escape. -/
theorem escaped_ne_pipe (cs rest : List Char) : escaped cs ≠ '|' :: rest := by
  cases cs with
  | nil => simp [escaped]
  | cons c cs =>
      by_cases hc : c = '|'
      · simp [hc, escaped_pipe]
      · simp [escaped_cons hc, hc]

theorem unescape_escaped (cs : List Char) : unescape (escaped cs) = cs := by
  induction cs with
  | nil => rfl
  | cons c cs ih =>
      by_cases hc : c = '|'
      · rw [hc, escaped_pipe, unescape, ih]
      · rw [escaped_cons hc, unescape, ih]
        exact fun rest _ hrest => escaped_ne_pipe cs rest hrest

/-- A cell with the blanks around it. -/
def padded (s : String) : List Char :=
  ' ' :: ((cell s).toList ++ [' '])

theorem readCell?_padded (s : String) : readCell? (padded s) = some s := by
  have hlast : ((cell s).toList ++ [' ']).getLast? = some ' ' := List.getLast?_concat
  rw [readCell?, padded, unpad?, if_pos hlast, List.dropLast_concat, Option.map_some, toList_cell,
    unescape_escaped, String.ofList_toList]

/-! ## Rows -/

theorem escapes_append (escaped : Bool) (cs ds : List Char) :
    escapes escaped (cs ++ ds) = escapes (escapes escaped cs) ds := by
  induction cs generalizing escaped with
  | nil => rfl
  | cons c cs ih => exact ih (c == '\\')

/-- A part that no pipe cuts, and that does not end in a backslash, goes up to the next pipe. -/
theorem splitPipes_append_pipe {escaped : Bool} {cs : List Char} (hpipes : openPipes escaped cs = 0)
    (hend : escapes escaped cs = false) (rest : List Char) :
    splitPipes escaped (cs ++ '|' :: rest) = cs :: splitPipes false rest := by
  induction cs generalizing escaped with
  | nil =>
      rw [escapes] at hend
      simp [splitPipes, hend]
  | cons c cs ih =>
      rw [openPipes, Nat.add_eq_zero_iff] at hpipes
      have hc : (c == '|' && !escaped) = false := by simpa using hpipes.1
      rw [List.cons_append, splitPipes, hc, ih hpipes.2 hend]
      rfl

theorem openPipes_padded (s : String) : openPipes false (padded s) = 0 := by
  rw [padded, openPipes, openPipes_append, openPipes_cell]
  rfl

theorem escapes_padded (s : String) : escapes false (padded s) = false := by
  rw [padded, escapes, escapes_append]
  rfl

theorem padded_join {cells : List String} (h : cells ≠ []) :
    ' ' :: ((join " | " (cells.map cell)).toList ++ [' ', '|']) =
      cells.flatMap fun s => padded s ++ ['|'] := by
  have hbar : " | ".toList = [' ', '|', ' '] := rfl
  rw [join, String.toList_intercalate, List.map_map, hbar]
  induction cells with
  | nil => exact absurd rfl h
  | cons s cells ih =>
      cases cells with
      | nil => simp [padded]
      | cons next cells =>
          rw [List.flatMap_cons, ← ih (by simp), List.map_cons, List.map_cons, List.intercalate_cons_cons]
          simp [padded]

/-- A row is a pipe, and after each cell with its blanks another pipe. -/
theorem toList_row {cells : List String} (h : cells ≠ []) :
    (row cells).toList = '|' :: cells.flatMap fun s => padded s ++ ['|'] := by
  rw [row, String.toList_append, String.toList_append, ← padded_join h]
  rfl

theorem splitPipes_cells (cells : List String) :
    splitPipes false (cells.flatMap fun s => padded s ++ ['|']) = cells.map padded ++ [[]] := by
  induction cells with
  | nil => rfl
  | cons s cells ih =>
      rw [List.flatMap_cons, List.append_assoc, List.singleton_append,
        splitPipes_append_pipe (openPipes_padded s) (escapes_padded s), ih, List.map_cons, List.cons_append]

theorem mapM_map_eq_some {α β : Type} {f : β → Option α} {g : α → β} {xs : List α}
    (h : ∀ x ∈ xs, f (g x) = some x) : (xs.map g).mapM f = some xs := by
  induction xs with
  | nil => rfl
  | cons x xs ih =>
      rw [List.map_cons, List.mapM_cons, h x List.mem_cons_self,
        ih fun y hy => h y (List.mem_cons_of_mem x hy)]
      rfl

/-- The cells of a row are read back, whatever stands in them. -/
theorem readRow?_row {cells : List String} (h : cells ≠ []) : readRow? (row cells).toList = some cells := by
  have hsplit : splitPipes false (row cells).toList = [] :: (cells.map padded ++ [[]]) := by
    rw [toList_row h, splitPipes, splitPipes_cells]
    rfl
  have hlast : (cells.map padded ++ [[]]).getLast? = some [] := List.getLast?_concat
  rw [readRow?, hsplit]
  simp only [hlast, if_true, List.dropLast_concat]
  exact mapM_map_eq_some fun s _ => readCell?_padded s

/-! ## Tables -/

theorem mem_cell {c : Char} {s : String} (h : c ∈ (cell s).toList) : c = '\\' ∨ c ∈ s.toList := by
  rw [toList_cell, escaped] at h
  obtain ⟨d, hd, hc⟩ := List.mem_flatMap.mp h
  by_cases hpipe : d = '|'
  · subst hpipe
    rcases List.mem_pair.mp hc with rfl | rfl
    · exact .inl rfl
    · exact .inr hd
  · have hone : c = d := by simpa [hpipe] using hc
    exact .inr (hone ▸ hd)

/-- A row brings no characters about but pipes, blanks and backslashes. -/
theorem mem_row {c : Char} {cells : List String} (h : c ∈ (row cells).toList) :
    c ∈ ['|', ' ', '\\'] ∨ ∃ s ∈ cells, c ∈ s.toList := by
  rw [row, String.toList_append, String.toList_append, List.mem_append, List.mem_append, join,
    String.toList_intercalate, List.map_map] at h
  have hstart : "| ".toList ⊆ ['|', ' ', '\\'] := by decide
  have hbar : " | ".toList ⊆ ['|', ' ', '\\'] := by decide
  have hend : " |".toList ⊆ ['|', ' ', '\\'] := by decide
  rcases h with (h | h) | h
  · exact .inl (hstart h)
  · rcases mem_intercalate h with h | ⟨part, hpart, hc⟩
    · exact .inl (hbar h)
    · obtain ⟨s, hs, rfl⟩ := List.mem_map.mp hpart
      rcases mem_cell hc with rfl | hc
      · exact .inl (by decide)
      · exact .inr ⟨s, hs, hc⟩
  · exact .inl (hend h)

theorem lineFeed_not_mem_row {cells : List String} (h : ∀ s ∈ cells, '\n' ∉ s.toList) :
    '\n' ∉ (row cells).toList := by
  intro hmem
  rcases mem_row hmem with hmark | ⟨s, hs, hfeed⟩
  · exact absurd hmark (by decide)
  · exact h s hs hfeed

theorem lineFeed_not_mem_lines {t : Table} (htitle : '\n' ∉ t.title.toList)
    (hheaders : ∀ s ∈ t.headers, '\n' ∉ s.toList)
    (hrows : ∀ cells ∈ t.rows, ∀ s ∈ cells, '\n' ∉ s.toList) :
    ∀ line ∈ t.lines, '\n' ∉ line.toList := by
  have hheading : '\n' ∉ t.heading.toList := by
    simp [heading, htitle]
  have hdashes : '\n' ∉ (row (t.headers.map fun _ => "---")).toList := by
    refine lineFeed_not_mem_row ?_
    rw [List.forall_mem_map]
    exact fun _ _ => by decide
  rw [lines, List.forall_mem_append, List.forall_mem_append, List.forall_mem_map]
  refine ⟨⟨?_, fun cells hcells => lineFeed_not_mem_row (hrows cells hcells)⟩, ?_⟩
  · simp only [List.forall_mem_cons, hheading, lineFeed_not_mem_row hheaders, hdashes]
    simp
  · simp

/-- A table without line feeds in its title, its headers and its cells is read back from its text: the
headers and the rows are those it was made of, at every level of its heading. -/
theorem read?_text {t : Table} (htitle : '\n' ∉ t.title.toList) (hheaders : t.headers ≠ [])
    (hrows : ∀ cells ∈ t.rows, cells ≠ []) (hheaderFeed : ∀ s ∈ t.headers, '\n' ∉ s.toList)
    (hrowFeed : ∀ cells ∈ t.rows, ∀ s ∈ cells, '\n' ∉ s.toList) :
    read? t.text = some (t.headers, t.rows) := by
  have hsplit : splitOn '\n' t.text.toList = t.lines.map String.toList := by
    have hfeed : "\n".toList = ['\n'] := rfl
    rw [text, join, String.toList_intercalate, hfeed, splitOn_intercalate]
    · simp [lines]
    · rw [List.forall_mem_map]
      exact lineFeed_not_mem_lines htitle hheaderFeed hrowFeed
  have hlines : t.lines.map String.toList = t.heading.toList :: [] :: (row t.headers).toList ::
      (row (t.headers.map fun _ => "---")).toList ::
        (t.rows.map (fun cells => (row cells).toList) ++ [[]]) := by
    simp [lines]
  have hlast : (t.rows.map (fun cells => (row cells).toList) ++ [[]]).getLast? = some [] :=
    List.getLast?_concat
  have hread : (t.rows.map fun cells => (row cells).toList).mapM readRow? = some t.rows :=
    mapM_map_eq_some fun cells hcells => readRow?_row (hrows cells hcells)
  rw [read?, hsplit, hlines]
  simp only [hlast, if_true, List.dropLast_concat, readRow?_row hheaders, hread]
  rfl

/-- Pipes and backslashes next to each other, at both ends of cells, cells of blanks and empty cells, in
rows of different lengths. -/
def spiky : Table where
  title := "| # |"
  level := 0
  headers := ["a|b\\", "\\|", ""]
  rows := [["\\\\|", " | "], ["\\"], ["", "  ", "|", "\\ \\"]]

theorem read?_text_spiky :
    '\n' ∉ spiky.title.toList ∧ spiky.headers ≠ [] ∧ (∀ cells ∈ spiky.rows, cells ≠ []) ∧
      (∀ s ∈ spiky.headers, '\n' ∉ s.toList) ∧
      (∀ cells ∈ spiky.rows, ∀ s ∈ cells, '\n' ∉ s.toList) ∧
      read? spiky.text = some (spiky.headers, spiky.rows) := by
  have htitle : '\n' ∉ spiky.title.toList := by decide
  have hheaders : spiky.headers ≠ [] := by decide
  have hrows : ∀ cells ∈ spiky.rows, cells ≠ [] := by decide
  have hheaderFeed : ∀ s ∈ spiky.headers, '\n' ∉ s.toList := by decide
  have hrowFeed : ∀ cells ∈ spiky.rows, ∀ s ∈ cells, '\n' ∉ s.toList := by decide
  exact ⟨htitle, hheaders, hrows, hheaderFeed, hrowFeed,
    read?_text htitle hheaders hrows hheaderFeed hrowFeed⟩

end TemplateDocs.Table
