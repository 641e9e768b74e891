import TemplateDocs.Failure
import TemplateDocs.Json.Basic
import TemplateDocs.Text.Digit
import TemplateDocs.Text.Half

/-!
# Reading JSON

The reader takes one value, blanks around it, and nothing else. Besides the standard's values it
takes `NaN`, `Infinity` and `-Infinity`; a number with a point or an exponent is a double. Whole
numbers and the depth of a document have limits.
-/

namespace TemplateDocs.Json

/-! ## Limits -/

/-- Why a text holds no document. -/
inductive ReadError where
  /-- The text breaks a rule of the notation. -/
  | malformed
  /-- A whole number has too many digits. -/
  | tooLong
  /-- Values stand too deep inside of others. -/
  | tooDeep
  deriving DecidableEq, Repr, Inhabited

/-- The fault that ends a reading; a text that only breaks a rule of the notation ends in none. -/
def ReadError.fault? : ReadError → Option Fault
  | malformed => none
  | tooLong => some .wrongValue
  | tooDeep => some .tooDeep

/-- How long and how deep a document may be. -/
structure Limits where
  /-- The most digits of a whole number. -/
  digits : Nat := Text.digitLimit
  /-- The most values that stand inside of each other. -/
  depth : Nat := callLimit
  deriving DecidableEq, Repr, Inhabited

/-! ## Leaves -/

/-- The blanks between tokens. -/
def isSpace (c : Char) : Bool :=
  c == ' ' || c == '\t' || c == '\n' || c == '\r'

/-- Without the blanks at the start. -/
def skipSpace (cs : List Char) : List Char :=
  cs.dropWhile isSpace

/-- The value of a hexadecimal digit. -/
def hexValue? (c : Char) : Option Nat :=
  if c.isDigit then some (c.toNat - '0'.toNat)
  else if 'a' ≤ c ∧ c ≤ 'f' then some (c.toNat - 'a'.toNat + 10)
  else if 'A' ≤ c ∧ c ≤ 'F' then some (c.toNat - 'A'.toNat + 10)
  else none

/-- The value of a run of hexadecimal digits. -/
def hexRun? (cs : List Char) : Option Nat :=
  cs.foldl (fun value c => do return 16 * (← value) + (← hexValue? c)) (some 0)

/-- The value of a run of decimal digits. -/
def digitsValue (cs : List Char) : Nat :=
  cs.foldl (fun value c => 10 * value + (c.toNat - '0'.toNat)) 0

/-- The character that a one-letter escape stands for. -/
def escaped? (c : Char) : Option Char :=
  match c with
  | '"' => some '"'
  | '\\' => some '\\'
  | '/' => some '/'
  | 'b' => some '\x08'
  | 'f' => some '\x0c'
  | 'n' => some '\n'
  | 'r' => some '\r'
  | 't' => some '\t'
  | _ => none

/-- The code units of a string up to its closing quote, and what follows it. -/
def readUnits : List Char → Option (List Nat × List Char)
  | [] => none
  | '"' :: rest => some ([], rest)
  | '\\' :: 'u' :: a :: b :: c :: d :: rest =>
    match hexRun? [a, b, c, d], readUnits rest with
    | some unit, some (units, rest) => some (unit :: units, rest)
    | _, _ => none
  | '\\' :: c :: rest =>
    match escaped? c, readUnits rest with
    | some e, some (units, rest) => some (e.toNat :: units, rest)
    | _, _ => none
  | c :: rest =>
    if c.toNat < 0x20 then none
    else (readUnits rest).map fun (units, rest) => (c.toNat :: units, rest)

/-- The characters of code units; two halves of a pair join. -/
def joinUnits : List Nat → List Char
  | [] => []
  | [unit] => [Text.ofUnit unit]
  | high :: low :: rest =>
    if 0xD800 ≤ high ∧ high < 0xDC00 ∧ 0xDC00 ≤ low ∧ low < 0xE000 then
      Char.ofNat (0x10000 + (high - 0xD800) * 0x400 + (low - 0xDC00)) :: joinUnits rest
    else Text.ofUnit high :: joinUnits (low :: rest)

/-- A string after its opening quote. -/
def readString (cs : List Char) : Except ReadError (String × List Char) :=
  match readUnits cs with
  | some (units, rest) => .ok (String.ofList (joinUnits units), rest)
  | none => .error .malformed

/-! ## Numbers -/

/-- The fraction after a point, if a digit follows it. -/
def readFraction : List Char → Option (List Char × List Char)
  | '.' :: rest =>
    match rest.takeWhile Char.isDigit with
    | [] => none
    | digits => some (digits, rest.dropWhile Char.isDigit)
  | _ => none

/-- The digits of an exponent, with their sign. -/
def readExponentDigits (negative : Bool) (cs : List Char) : Option (Int × List Char) :=
  match cs.takeWhile Char.isDigit with
  | [] => none
  | digits =>
    let value : Int := digitsValue digits
    some (if negative then -value else value, cs.dropWhile Char.isDigit)

/-- An exponent. -/
def readExponent : List Char → Option (Int × List Char)
  | 'e' :: '-' :: rest => readExponentDigits true rest
  | 'E' :: '-' :: rest => readExponentDigits true rest
  | 'e' :: '+' :: rest => readExponentDigits false rest
  | 'E' :: '+' :: rest => readExponentDigits false rest
  | 'e' :: rest => readExponentDigits false rest
  | 'E' :: rest => readExponentDigits false rest
  | _ => none

/-- The whole part of a number: a zero, or digits that do not start with one. -/
def readWhole : List Char → Option (List Char × List Char)
  | '0' :: rest => some (['0'], rest)
  | c :: rest =>
    if c.isDigit then some (c :: rest.takeWhile Char.isDigit, rest.dropWhile Char.isDigit) else none
  | [] => none

/-- A number without its sign. Only whole numbers have a limit. -/
def readUnsigned (limits : Limits) (negative : Bool) (cs : List Char) :
    Except ReadError (Json × List Char) :=
  match readWhole cs with
  | none => .error .malformed
  | some (whole, rest) =>
    let fraction := readFraction rest
    let afterFraction := (fraction.map Prod.snd).getD rest
    let exponent := readExponent afterFraction
    let afterExponent := (exponent.map Prod.snd).getD afterFraction
    if fraction.isNone && exponent.isNone then
      let value : Int := digitsValue whole
      if limits.digits < whole.length then .error .tooLong
      else .ok (int (if negative then -value else value), rest)
    else
      let places := (fraction.map Prod.fst).getD []
      let shift := (exponent.map Prod.fst).getD 0
      .ok (float (Double.ofDecimal negative (digitsValue (whole ++ places)) (shift - places.length)),
        afterExponent)

/-- A number or the name of one. -/
def readNumber (limits : Limits) : List Char → Except ReadError (Json × List Char)
  | 'N' :: 'a' :: 'N' :: rest => .ok (float .notANumber, rest)
  | 'I' :: 'n' :: 'f' :: 'i' :: 'n' :: 'i' :: 't' :: 'y' :: rest =>
    .ok (float (.infinite false), rest)
  | '-' :: 'I' :: 'n' :: 'f' :: 'i' :: 'n' :: 'i' :: 't' :: 'y' :: rest =>
    .ok (float (.infinite true), rest)
  | '-' :: rest => readUnsigned limits true rest
  | cs => readUnsigned limits false cs

/-! ## Values -/

mutual

/-- One value at the start of the text, with `room` for values inside of it. -/
def readValue (limits : Limits) :
    (fuel : Nat) → (room : Nat) → List Char → Except ReadError (Json × List Char)
  | 0, _, _ => .error .malformed
  | fuel + 1, room, cs =>
    match cs with
    | 'n' :: 'u' :: 'l' :: 'l' :: rest => .ok (null, rest)
    | 't' :: 'r' :: 'u' :: 'e' :: rest => .ok (bool true, rest)
    | 'f' :: 'a' :: 'l' :: 's' :: 'e' :: rest => .ok (bool false, rest)
    | '"' :: rest => do
      let (s, rest) ← readString rest
      return (text s, rest)
    | '[' :: rest =>
      match room, skipSpace rest with
      | 0, _ => .error .tooDeep
      | _, ']' :: rest => .ok (array [], rest)
      | room + 1, rest => do
        let (items, rest) ← readItems limits fuel room rest
        return (array items, rest)
    | '{' :: rest =>
      match room, skipSpace rest with
      | 0, _ => .error .tooDeep
      | _, '}' :: rest => .ok (object [], rest)
      | room + 1, rest => do
        let (entries, rest) ← readEntries limits fuel room rest
        return (object (lastEntries entries), rest)
    | cs => readNumber limits cs

/-- The items of an array up to its closing bracket. -/
def readItems (limits : Limits) :
    (fuel : Nat) → (room : Nat) → List Char → Except ReadError (List Json × List Char)
  | 0, _, _ => .error .malformed
  | fuel + 1, room, cs => do
    let (item, rest) ← readValue limits fuel room cs
    match skipSpace rest with
    | ']' :: rest => return ([item], rest)
    | ',' :: rest =>
      let (items, rest) ← readItems limits fuel room (skipSpace rest)
      return (item :: items, rest)
    | _ => throw .malformed

/-- The entries of an object up to its closing brace. -/
def readEntries (limits : Limits) :
    (fuel : Nat) → (room : Nat) → List Char → Except ReadError (List (String × Json) × List Char)
  | 0, _, _ => .error .malformed
  | fuel + 1, room, cs => do
    match cs with
    | '"' :: rest =>
      let (key, rest) ← readString rest
      match skipSpace rest with
      | ':' :: rest =>
        let (value, rest) ← readValue limits fuel room (skipSpace rest)
        match skipSpace rest with
        | '}' :: rest => return ([(key, value)], rest)
        | ',' :: rest =>
          let (entries, rest) ← readEntries limits fuel room (skipSpace rest)
          return ((key, value) :: entries, rest)
        | _ => throw .malformed
      | _ => throw .malformed
    | _ => throw .malformed

end

/-- The document that a text holds within limits. -/
def readWithin (limits : Limits) (cs : List Char) : Except ReadError Json := do
  let (doc, rest) ← readValue limits (2 * cs.length + 2) limits.depth (skipSpace cs)
  if (skipSpace rest).isEmpty then return doc else throw .malformed

/-- The document that a text holds. -/
def read (s : String) : Except ReadError Json :=
  readWithin {} s.toList

end TemplateDocs.Json
