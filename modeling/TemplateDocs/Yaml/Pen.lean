/-!
# Writing lines

A pen keeps the column it stands at, so that long lines can be broken and blanks put only where they
are needed.
-/

namespace TemplateDocs.Yaml

/-- What has been written so far, the last character first, and where the pen stands. -/
structure Pen where
  written : List Char := []
  column : Nat := 0
  /-- Whether a blank or the start of a line stands before the pen. -/
  blank : Bool := true
  /-- Whether only indentation and marks stand before the pen on its line. -/
  fresh : Bool := true
  deriving DecidableEq, Repr, Inhabited

namespace Pen

/-- The column after which lines are broken. -/
def width : Nat := 80

/-- All that was written. -/
def text (p : Pen) : String :=
  String.ofList p.written.reverse

/-- Writes characters of one line. -/
def put (p : Pen) (cs : List Char) : Pen :=
  { p with written := cs.reverse ++ p.written, column := p.column + cs.length }

/-- The pen in the midst of a scalar. -/
def inside (p : Pen) : Pen :=
  { p with blank := false, fresh := false }

/-- Ends the line. -/
def newLine (p : Pen) : Pen :=
  { written := '\n' :: p.written, column := 0, blank := true, fresh := true }

/-- Moves on to a column, on the next line if something stands on this one. -/
def toColumn (p : Pen) (column : Nat) : Pen :=
  let p :=
    if !p.fresh || decide (column < p.column) || (p.column == column && !p.blank) then p.newLine
    else p
  if p.column < column then
    { p.put (List.replicate (column - p.column) ' ') with blank := true }
  else p

/-- Writes a mark with a blank before it where it needs one. After some marks a collection may go on
along the same line. -/
def mark (p : Pen) (cs : List Char) (needsBlank goesOn : Bool) : Pen :=
  let data := if p.blank || !needsBlank then cs else ' ' :: cs
  { p.put data with blank := false, fresh := p.fresh && goesOn }

end Pen

end TemplateDocs.Yaml
