/-!
# Lines

A text is cut at its line ends; a carriage return and a line feed together are one end, and an end
at the very end of the text starts no further line.
-/

namespace TemplateDocs.Text

/-- The lines of a text for a given class of line ends. -/
def splitLines (isEnd : Char → Bool) : List Char → List (List Char)
  | [] => []
  | '\r' :: '\n' :: rest => [] :: splitLines isEnd rest
  | c :: rest =>
    if isEnd c then [] :: splitLines isEnd rest
    else
      match splitLines isEnd rest with
      | [] => [[c]]
      | line :: lines => (c :: line) :: lines

/-- The line ends of a file: line feed and carriage return. -/
def isFileLineEnd (c : Char) : Bool :=
  c == '\n' || c == '\r'

/-- The line ends of a text in memory, with the separators of every script. -/
def isLineEnd (c : Char) : Bool :=
  let n := c.toNat
  (decide (0x0A ≤ n) && decide (n ≤ 0x0D)) || (decide (0x1C ≤ n) && decide (n ≤ 0x1E)) ||
  n == 0x85 || n == 0x2028 || n == 0x2029

/-- The lines of a text in memory. -/
def lines (s : String) : List String :=
  (splitLines isLineEnd s.toList).map String.ofList

/-- The lines of a text file. -/
def fileLines (s : String) : List String :=
  (splitLines isFileLineEnd s.toList).map String.ofList

/-- Every pair of carriage return and line feed becomes a line feed. -/
def crlfToLf : List Char → List Char
  | [] => []
  | '\r' :: '\n' :: rest => '\n' :: crlfToLf rest
  | c :: rest => c :: crlfToLf rest

/-- Every line end of a file becomes a line feed. -/
def fileText : List Char → List Char
  | [] => []
  | '\r' :: '\n' :: rest => '\n' :: fileText rest
  | '\r' :: rest => '\n' :: fileText rest
  | c :: rest => c :: fileText rest

end TemplateDocs.Text
