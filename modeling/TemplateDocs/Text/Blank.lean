/-!
# Blank characters

The white space of every script, the separators of information included, and the removal of blanks
at the ends of a text.
-/

namespace TemplateDocs.Text

/-- White space of any script. -/
def isBlank (c : Char) : Bool :=
  let n := c.toNat
  (decide (0x09 ≤ n) && decide (n ≤ 0x0D)) || (decide (0x1C ≤ n) && decide (n ≤ 0x20)) ||
  n == 0x85 || n == 0xA0 || n == 0x1680 || (decide (0x2000 ≤ n) && decide (n ≤ 0x200A)) ||
  n == 0x2028 || n == 0x2029 || n == 0x202F || n == 0x205F || n == 0x3000

/-- Without the leading blanks. -/
def trimLeft (cs : List Char) : List Char :=
  cs.dropWhile isBlank

/-- Without the characters of a class at the end. -/
def dropEnd (p : Char → Bool) (cs : List Char) : List Char :=
  (cs.reverse.dropWhile p).reverse

/-- Without the trailing blanks. -/
def trimRight (cs : List Char) : List Char :=
  dropEnd isBlank cs

/-- Without the blanks at both ends. -/
def trim (cs : List Char) : List Char :=
  trimRight (trimLeft cs)

/-- A text without the blanks at both ends. -/
def strip (s : String) : String :=
  String.ofList (trim s.toList)

end TemplateDocs.Text
