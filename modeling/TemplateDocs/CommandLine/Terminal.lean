import TemplateDocs.CommandLine.Console
import TemplateDocs.CommandLine.Emoji
import TemplateDocs.Text.Width

/-!
# Lines on a terminal

Bells and the like are left out, tabs become blanks and names between colons become pictures. In a line
with a symbol, square brackets are read as marks of styles: those that look like one are kept as text,
and before any other a backslash is dropped.
-/

namespace TemplateDocs.Terminal

/-! ## Brackets -/

/-- Whether a bracket is closed before another one opens. -/
def closes : List Char → Bool
  | [] => false
  | c :: cs => c == ']' || (c != '[' && closes cs)

/-- Whether a text starts with what looks like the mark of a style. -/
def startsMark : List Char → Bool
  | '[' :: c :: cs =>
    ((decide ('a' ≤ c) && decide (c ≤ 'z')) || c == '#' || c == '/' || c == '@') && closes cs
  | _ => false

/-- The marks of a text and what stands between them, in order, after the start of a part in
reverse. The backslash before a bracket that starts no mark is dropped. -/
def partsFrom (inMark : Bool) (start : List Char) : List Char → List (List Char)
  | [] => [start.reverse]
  | c :: cs =>
    if inMark then
      if c == ']' then (c :: start).reverse :: partsFrom false [] cs
      else partsFrom true (c :: start) cs
    else if startsMark (c :: cs) then start.reverse :: partsFrom true [c] cs
    else if c == '\\' && cs.head? == some '[' && !startsMark cs then partsFrom false start cs
    else partsFrom false (c :: start) cs

/-- The marks of a text and what stands between them. -/
def parts (cs : List Char) : List (List Char) :=
  partsFrom false [] cs

/-- A backslash at the very end is written twice if it stands alone. -/
def closeBackslash (cs : List Char) : List Char :=
  match cs.reverse with
  | ['\\'] => cs ++ ['\\']
  | '\\' :: c :: _ => if c == '\\' then cs else cs ++ ['\\']
  | _ => cs

/-! ## Lines -/

/-- The characters that no line holds. -/
def isDropped (c : Char) : Bool :=
  c == '\x07' || c == '\x08' || c == '\x0b' || c == '\x0c' || c == '\r'

/-- The distance between the stops of a tab. -/
def tabWidth : Nat := 8

/-- Puts blanks up to the next stop for each tab. -/
def expandTabs (column : Nat) : List Char → List Char
  | [] => []
  | c :: cs =>
    if c == '\t' then
      let blanks := tabWidth - column % tabWidth
      List.replicate blanks ' ' ++ expandTabs (column + blanks) cs
    else c :: expandTabs (if c == '\n' then 0 else column + Text.columns c) cs

/-- A line of characters. -/
def line (cs : List Char) : String :=
  String.ofList (expandTabs 0 (cs.filter fun c => !isDropped c) ++ ['\n'])

/-- A message after a symbol. Within a mark, and between two of them, names become pictures on their
own. -/
def styled (_style symbol message : String) : String :=
  line (symbol.toList ++ ' ' :: (parts (closeBackslash message.toList)).flatMap Emoji.expand)

/-- How lines look on a terminal without colours. -/
def printer : Printer where
  styled
  plain message := line (Emoji.expand message.toList)

end TemplateDocs.Terminal
