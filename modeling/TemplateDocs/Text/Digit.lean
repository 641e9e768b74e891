import TemplateDocs.Text.Blank

/-!
# Decimal digits and whole numbers

Every script's digits stand in a run of ten, zero first. A whole number is written with digits of any
script, and in a base beyond ten with letters too.
-/

namespace TemplateDocs.Text

/-! ## Digits -/

/-- The zeros of all scripts. -/
def zeros : List Nat :=
  [0x30, 0x660, 0x6F0, 0x7C0, 0x966, 0x9E6, 0xA66, 0xAE6, 0xB66, 0xBE6, 0xC66, 0xCE6, 0xD66,
   0xDE6, 0xE50, 0xED0, 0xF20, 0x1040, 0x1090, 0x17E0, 0x1810, 0x1946, 0x19D0, 0x1A80, 0x1A90,
   0x1B50, 0x1BB0, 0x1C40, 0x1C50, 0xA620, 0xA8D0, 0xA900, 0xA9D0, 0xA9F0, 0xAA50, 0xABF0,
   0xFF10, 0x104A0, 0x10D30, 0x11066, 0x110F0, 0x11136, 0x111D0, 0x112F0, 0x11450, 0x114D0,
   0x11650, 0x116C0, 0x11730, 0x118E0, 0x11950, 0x11C50, 0x11D50, 0x11DA0, 0x16A60, 0x16AC0,
   0x16B50, 0x1D7CE, 0x1D7D8, 0x1D7E2, 0x1D7EC, 0x1D7F6, 0x1E140, 0x1E2F0, 0x1E950, 0x1FBF0]

/-- The value of a decimal digit of any script. -/
def digitValue? (c : Char) : Option Nat :=
  (zeros.find? fun z => decide (z ≤ c.toNat) && decide (c.toNat ≤ z + 9)).map (c.toNat - ·)

/-- The value of a letter that is a digit in bases beyond ten. -/
def letterValue? (c : Char) : Option Nat :=
  if 'a' ≤ c ∧ c ≤ 'f' then some (c.toNat - 87)
  else if 'A' ≤ c ∧ c ≤ 'F' then some (c.toNat - 55)
  else none

/-- The value of a digit in a base up to sixteen. -/
def digitIn? (base : Nat) (c : Char) : Option Nat :=
  ((digitValue? c).orElse fun _ => letterValue? c).filter (· < base)

/-- The value of a run of digits in which single underscores may stand between two digits. -/
def digitRun? (base value : Nat) (afterDigit : Bool) : List Char → Option Nat
  | [] => if afterDigit then some value else none
  | c :: rest =>
    if c == '_' then if afterDigit then digitRun? base value false rest else none
    else
      match digitIn? base c with
      | some d => digitRun? base (base * value + d) true rest
      | none => none

/-! ## Whole numbers -/

/-- The longest run of decimal digits that is read or shown as a number. -/
def digitLimit : Nat := 4300

/-- The blanks that may stand around a number: all but the separators of information. -/
def isNumberBlank (c : Char) : Bool :=
  isBlank c && !(decide (0x1C ≤ c.toNat) && decide (c.toNat ≤ 0x1F))

/-- Without the blanks around a number. -/
def trimNumber (cs : List Char) : List Char :=
  dropEnd isNumberBlank (cs.dropWhile isNumberBlank)

/-- Without the mark of a base other than ten. -/
def dropBaseMark (base : Nat) : List Char → List Char
  | '0' :: mark :: rest =>
    let letter := mark.toLower
    if (base == 16 && letter == 'x') || (base == 8 && letter == 'o') || (base == 2 && letter == 'b')
    then rest
    else '0' :: mark :: rest
  | cs => cs

/-- A whole number without a sign. Only in base ten there is a limit to its length. -/
def unsignedIn? (base : Nat) (cs : List Char) : Option Nat :=
  if base == 10 && decide (digitLimit < (cs.filter (· != '_')).length) then none
  else digitRun? base 0 false (dropBaseMark base cs)

/-- A whole number in a base: blanks around it, an optional sign, digits of any script. -/
def integerIn? (base : Nat) (cs : List Char) : Option Int :=
  match trimNumber cs with
  | '+' :: rest => (unsignedIn? base rest).map Int.ofNat
  | '-' :: rest => (unsignedIn? base rest).map fun n => -Int.ofNat n
  | cs => (unsignedIn? base cs).map Int.ofNat

/-- A whole number in base ten. -/
def integer? (s : String) : Option Int :=
  integerIn? 10 s.toList

/-- A whole number in decimal digits, unless they are too many. -/
def decimal? (n : Int) : Option String :=
  let digits := toString n.natAbs
  if digits.length ≤ digitLimit then some (if n < 0 then "-" ++ digits else digits) else none

end TemplateDocs.Text
