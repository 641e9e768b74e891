import TemplateDocs.Text.Search

/-!
# Paths

A path is a root, empty for a relative one, and the parts below it. Empty parts and single dots are
left out of it.
-/

namespace TemplateDocs

/-- A path without empty parts and single dots. -/
structure Path where
  root : String := ""
  parts : List String := []
  deriving DecidableEq, Repr, Inhabited

namespace Path

/-! ## Reading and writing -/

/-- The parts of a text between its slashes. -/
def pieces (s : String) : List String :=
  (Text.splitOn '/' s.toList).map String.ofList

/-- The root that a text starts with. Two slashes are a root of their own, three or more are one. -/
def rootOf : List Char → String
  | '/' :: '/' :: '/' :: _ => "/"
  | '/' :: '/' :: _ => "//"
  | '/' :: _ => "/"
  | _ => ""

/-- The path that a text names. -/
def ofString (s : String) : Path :=
  { root := rootOf s.toList
    parts := (pieces s).filter fun part => part != "" && part != "." }

/-- The path as text; the empty path is a single dot. -/
def text (p : Path) : String :=
  let body := p.root ++ Text.join "/" p.parts
  if body == "" then "." else body

/-! ## Parts -/

/-- The path without its last part. -/
def parent (p : Path) : Path :=
  { p with parts := p.parts.dropLast }

/-- The last part, empty if there is none. -/
def name (p : Path) : String :=
  p.parts.getLast?.getD ""

/-- The path with another last part. -/
def withName (p : Path) (part : String) : Path :=
  { p with parts := p.parts.dropLast ++ [part] }

/-- The path with one part more. -/
def child (p : Path) (part : String) : Path :=
  { p with parts := p.parts ++ [part] }

/-- The path with more parts. -/
def below (p : Path) (parts : List String) : Path :=
  { p with parts := p.parts ++ parts }

/-- One path below another; a path with a root of its own stands alone. -/
def join (p q : Path) : Path :=
  if q.root == "" then { p with parts := p.parts ++ q.parts } else q

/-- The name before and after its last point. A point at either end counts for nothing. -/
def splitName (name : List Char) : List Char × List Char :=
  let after := (name.reverse.takeWhile (· != '.')).reverse
  let before := name.take (name.length - after.length - 1)
  if before.isEmpty || after.isEmpty then (name, []) else (before, '.' :: after)

/-- The last part without its ending. -/
def stem (p : Path) : String :=
  String.ofList (splitName p.name.toList).1

/-- The ending of the last part, with its point. -/
def ending (p : Path) : String :=
  String.ofList (splitName p.name.toList).2

end Path

end TemplateDocs
