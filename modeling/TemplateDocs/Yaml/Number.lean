import TemplateDocs.Failure
import TemplateDocs.Number.Reader
import TemplateDocs.Text.Digit
import TemplateDocs.Text.LowerCase
import TemplateDocs.Yaml.Kind

/-!
# Numbers

A whole number is binary, octal, decimal or hexadecimal, or counted in sixties with colons; a double
has a point or is counted in sixties. Underscores do not count. What is marked as a number need not be
written as one, and then reading it fails.
-/

namespace TemplateDocs.Yaml

/-- A result that has to be there. -/
def orWrong {α : Type} (r : Option α) : Except Fault α :=
  match r with
  | some a => .ok a
  | none => .error .wrongValue

/-! ## Whole numbers -/

/-- The value of whole numbers counted in sixties. -/
def sixties (parts : List Int) : Int :=
  parts.foldl (fun n d => 60 * n + d) 0

/-- The value of a whole number without its sign and without underscores. -/
def unsignedValue (cs : List Char) : Except Fault Int :=
  match cs with
  | [] => .error .noSuchItem
  | ['0'] => .ok 0
  | '0' :: 'b' :: digits => orWrong (Text.integerIn? 2 digits)
  | '0' :: 'x' :: digits => orWrong (Text.integerIn? 16 digits)
  | '0' :: _ => orWrong (Text.integerIn? 8 cs)
  | cs =>
    if cs.contains ':' then
      (orWrong ((Text.splitOn ':' cs).mapM (Text.integerIn? 10))).map sixties
    else orWrong (Text.integerIn? 10 cs)

/-- The value of a whole number. -/
def intValue (text : String) : Except Fault Int :=
  let cs := text.toList.filter (· != '_')
  (unsignedValue (unsigned cs)).map fun n => if cs.head? == some '-' then -n else n

/-! ## Doubles -/

/-- A power of sixty as a double. -/
def sixtyPower (n : Nat) : Except Fault Double :=
  match Double.ofInt (Nat.pow 60 n : Nat) with
  | .infinite _ => .error .tooLarge
  | x => .ok x

/-- The value of doubles counted in sixties, the last one first. Every step is rounded. -/
def doubleSixties (place : Nat) (sum : Double) : List Double → Except Fault Double
  | [] => .ok sum
  | digit :: more => do
    let unit ← sixtyPower place
    doubleSixties (place + 1) (sum.add (digit.mul unit)) more

/-- The value of a double without its sign and without underscores, in lower case. -/
def unsignedDouble (cs : List Char) : Except Fault Double :=
  if cs == ".inf".toList then .ok (.infinite false)
  else if cs == ".nan".toList then .ok .notANumber
  else if cs.contains ':' then do
    let parts ← orWrong ((Text.splitOn ':' cs).mapM Double.ofText?)
    doubleSixties 0 (Double.ofInt 0) parts.reverse
  else orWrong (Double.ofText? cs)

/-- A double as it is written, without underscores and in lower case. -/
def doubleChars (text : String) : List Char :=
  (Text.lower (String.ofList (text.toList.filter (· != '_')))).toList

/-- The value of a double. -/
def doubleValue (text : String) : Except Fault Double :=
  match doubleChars text with
  | [] => .error .noSuchItem
  | cs => (unsignedDouble (unsigned cs)).map fun x => if cs.head? == some '-' then x.neg else x

/-- Whether the word for what is not a number is written. All such words stand for the same thing. -/
def isNotANumberWord (text : String) : Bool :=
  unsigned (doubleChars text) == ".nan".toList

end TemplateDocs.Yaml
