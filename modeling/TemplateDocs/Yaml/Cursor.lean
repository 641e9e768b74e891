import TemplateDocs.Failure

/-!
# A place in a YAML text

A cursor holds what is still to be read together with the line and the column it stands at. Past the
end of the text it shows the null character, which no text holds.
-/

namespace TemplateDocs.Yaml

/-! ## Characters -/

/-- The ends of lines. -/
def isBreak (c : Char) : Bool :=
  c == '\n' || c == '\x85' || c == '\u2028' || c == '\u2029'

/-- The characters that end a line, the end of the text among them. -/
def endsLine (c : Char) : Bool :=
  c == '\x00' || isBreak c

/-- The characters that a line or a space ends with. -/
def endsField (c : Char) : Bool :=
  c == ' ' || endsLine c

/-- The characters that end a word. -/
def endsWord (c : Char) : Bool :=
  c == '\t' || endsField c

/-- The marks of collections written on one line. -/
def isFlowMark (c : Char) : Bool :=
  c == ',' || c == '[' || c == ']' || c == '\x7b' || c == '\x7d'

/-- The characters of names of anchors, tags and directives. -/
def isNameChar (c : Char) : Bool :=
  c.isAlphanum || c == '-' || c == '_'

/-- The character that a line end stands for in a text: all but two are line feeds. -/
def breakChar (c : Char) : Char :=
  if c == '\x85' then '\n' else c

/-! ## Cursors -/

/-- Why a YAML text could not be read. -/
inductive ReadError where
  /-- The text breaks a rule of the notation. -/
  | malformed
  /-- The text ends where a rule of the notation asks for more. -/
  | cutShort
  /-- Something written in the text does not exist. -/
  | fault (fault : Fault)
  deriving DecidableEq, Repr, Inhabited

/-- A place in a text. -/
structure Cursor where
  rest : List Char
  index : Nat := 0
  line : Nat := 0
  column : Nat := 0
  deriving DecidableEq, Repr, Inhabited

namespace Cursor

/-- The character at the cursor. -/
def peek (c : Cursor) : Char :=
  c.rest.headD '\x00'

/-- The character a number of places behind the cursor. -/
def peekAt (c : Cursor) (n : Nat) : Char :=
  (c.rest.drop n).headD '\x00'

/-- The cursor after one character. A byte order mark takes no column. -/
def next (c : Cursor) : Cursor :=
  match c.rest with
  | [] => c
  | ch :: rest =>
    if isBreak ch then { rest, index := c.index + 1, line := c.line + 1, column := 0 }
    else
      { rest
        index := c.index + 1
        line := c.line
        column := if ch == '\uFEFF' then c.column else c.column + 1 }

/-- The cursor after a number of characters. -/
def skip : Nat → Cursor → Cursor
  | 0, c => c
  | n + 1, c => skip n c.next

/-- The cursor after the characters of a class. -/
def skipWhile (p : Char → Bool) (c : Cursor) : Cursor :=
  skip (c.rest.takeWhile p).length c

/-- The characters of a class at the cursor, and the cursor after them. -/
def span (p : Char → Bool) (c : Cursor) : List Char × Cursor :=
  (c.rest.takeWhile p, c.skipWhile p)

/-- The line end at the cursor as it stands in a text, and the cursor after it. -/
def lineBreak (c : Cursor) : List Char × Cursor :=
  if isBreak c.peek then ([breakChar c.peek], c.next) else ([], c)

/-- The cursor after the blanks and the comment at it. -/
def skipComment (c : Cursor) : Cursor :=
  let c := c.skipWhile (· == ' ')
  if c.peek == '#' then c.skipWhile (fun ch => !endsLine ch) else c

/-- Whether a mark of three equal characters stands alone at the cursor. -/
def atMark (c : Cursor) (mark : Char) : Bool :=
  c.rest.take 3 == [mark, mark, mark] && endsWord (c.peekAt 3)

/-- Whether the start or the end of a document is marked at the cursor. -/
def atDocumentMark (c : Cursor) : Bool :=
  c.atMark '-' || c.atMark '.'

/-- What is wrong if a rule of the notation is broken at the cursor. -/
def complaint (c : Cursor) : ReadError :=
  if c.rest.isEmpty then .cutShort else .malformed

end Cursor

end TemplateDocs.Yaml
