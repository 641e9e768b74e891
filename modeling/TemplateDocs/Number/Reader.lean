import TemplateDocs.Number.Double
import TemplateDocs.Text.Digit

/-!
# Reading doubles

A double is written with digits of any script, a point and an exponent, or as a word. Blanks may
stand around it.
-/

namespace TemplateDocs.Double

/-- Whether a character is a decimal digit of some script. -/
def isDigit (c : Char) : Bool :=
  (Text.digitValue? c).isSome

/-- The value of a run of digits. -/
def runValue (digits : List Char) : Nat :=
  digits.foldl (fun n c => 10 * n + (Text.digitValue? c).getD 0) 0

/-- A sign apart from what follows it. -/
def takeSign : List Char → Bool × List Char
  | '-' :: rest => (true, rest)
  | '+' :: rest => (false, rest)
  | cs => (false, cs)

/-- The exponent that makes up the rest of a number. -/
def exponent? : List Char → Option Int
  | [] => some 0
  | mark :: rest =>
    let (negative, digits) := takeSign rest
    if (mark == 'e' || mark == 'E') && !digits.isEmpty && digits.all isDigit then
      some (if negative then -(runValue digits : Int) else runValue digits)
    else none

/-- A number in digits without its sign. -/
def ofDigits? (negative : Bool) (cs : List Char) : Option Double :=
  let whole := cs.takeWhile isDigit
  let rest := cs.dropWhile isDigit
  let (places, rest) := match rest with
    | '.' :: rest => (rest.takeWhile isDigit, rest.dropWhile isDigit)
    | rest => ([], rest)
  if whole.isEmpty && places.isEmpty then none
  else
    (exponent? rest).map fun e =>
      ofDecimal negative (runValue (whole ++ places)) (e - places.length)

/-- The double that a text writes. -/
def ofText? (cs : List Char) : Option Double :=
  let (negative, cs) := takeSign (Text.trimNumber cs)
  let word := String.ofList (cs.map Char.toLower)
  if word == "inf" || word == "infinity" then some (infinite negative)
  else if word == "nan" then some notANumber
  else ofDigits? negative cs

end TemplateDocs.Double
