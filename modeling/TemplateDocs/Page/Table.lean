import TemplateDocs.Text.Search

/-!
# Tables

A table stands under a heading. A pipe inside a cell is written with a backslash before it.
-/

namespace TemplateDocs

/-- A titled table. -/
structure Table where
  title : String
  headers : List String
  rows : List (List String) := []
  level : Nat := 2
  deriving DecidableEq, Repr, Inhabited

namespace Table

/-- The text of a cell with its pipes escaped. -/
def cell (text : String) : String :=
  String.ofList (text.toList.flatMap fun c => if c == '|' then ['\\', '|'] else [c])

/-- A row of cells. -/
def row (cells : List String) : String :=
  "| " ++ Text.join " | " (cells.map cell) ++ " |"

/-- The heading over the table. -/
def heading (t : Table) : String :=
  String.ofList (List.replicate t.level '#') ++ " " ++ t.title

/-- The lines of the table, the last one empty. -/
def lines (t : Table) : List String :=
  [t.heading, "", row t.headers, row (t.headers.map fun _ => "---")] ++ t.rows.map row ++ [""]

/-- The table as text, with a line feed at its end. -/
def text (t : Table) : String :=
  Text.join "\n" t.lines

end Table

/-! ## Columns -/

/-- A column of a table about things of a type. Extra columns are shown on demand. -/
structure Column (ε α : Type) where
  header : String
  extra : Bool := false
  cell : α → Except ε String

/-- The columns that are shown. -/
def Column.shown {ε α : Type} (withExtras : Bool) (columns : List (Column ε α)) :
    List (Column ε α) :=
  columns.filter fun c => withExtras || !c.extra

/-- The table of the given columns with a row for each item. -/
def Table.ofColumns {ε α : Type} (title : String) (level : Nat) (columns : List (Column ε α))
    (items : List α) : Except ε Table := do
  let rows ← items.mapM fun item => columns.mapM fun c => c.cell item
  return { title, level, headers := columns.map Column.header, rows }

end TemplateDocs
