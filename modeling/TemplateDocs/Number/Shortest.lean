import TemplateDocs.Number.Double

/-!
# The shortest decimal of a double

Of the decimals that read back as a given double the one with the fewest digits is written, and of
those with equally many digits the nearest.
-/

namespace TemplateDocs

/-- The number `digits * 10 ^ exponent`. -/
structure Decimal where
  digits : Nat
  exponent : Int
  deriving DecidableEq, Repr, Inhabited

namespace Decimal

/-- `10 ^ n` for any whole `n`, as a quotient. -/
def powerOfTen (n : Int) : Nat × Nat :=
  if 0 ≤ n then (Nat.pow 10 n.toNat, 1) else (1, Nat.pow 10 (-n).toNat)

/-- `mantissa * 2 ^ exponent` as a quotient. -/
def quotient (mantissa : Nat) (exponent : Int) : Nat × Nat :=
  if 0 ≤ exponent then (mantissa * Nat.pow 2 exponent.toNat, 1)
  else (mantissa, Nat.pow 2 (-exponent).toNat)

/-- The least `k` among `guess, guess + 1, …` with `num / den < 10 ^ k`, in at most `steps` steps. -/
def pointPlace (num den : Nat) : (steps : Nat) → (guess : Int) → Int
  | 0, guess => guess
  | steps + 1, guess =>
    let (p, q) := powerOfTen guess
    if num * q < p * den then guess else pointPlace num den steps (guess + 1)

/-- The two decimals with exponent `place` next to `num / den`, the nearer one first, of two equally
near the even one. -/
def neighbours (num den : Nat) (place : Int) : List Decimal :=
  let (p, q) := powerOfTen place
  let floor := num * q / (den * p)
  let twice := 2 * (num * q % (den * p))
  let upFirst := decide (den * p < twice) || (twice == den * p && floor % 2 == 1)
  if upFirst then [⟨floor + 1, place⟩, ⟨floor, place⟩] else [⟨floor, place⟩, ⟨floor + 1, place⟩]

/-- The first decimal that reads back, trying `count` digits, then one more, for `tries` counts. -/
def searchFrom (mantissa : Nat) (exponent : Int) (num den : Nat) (point : Int) :
    (tries : Nat) → (count : Nat) → Decimal
  | 0, _ => ⟨mantissa, 0⟩
  | tries + 1, count =>
    let hit := (neighbours num den (point - count)).find? fun d =>
      Double.ofDecimal false d.digits d.exponent == Double.finite false mantissa exponent
    match hit with
    | some d => d
    | none => searchFrom mantissa exponent num den point tries (count + 1)

/-- The shortest decimal of the double with the given mantissa and exponent. -/
def shortest (mantissa : Nat) (exponent : Int) : Decimal :=
  if mantissa = 0 then ⟨0, 0⟩
  else
    let (num, den) := quotient mantissa exponent
    let bits : Int := (Nat.log2 mantissa : Int) + exponent
    let guess : Int := bits * 30103 / 100000 - 1
    searchFrom mantissa exponent num den (pointPlace num den 8 guess) 17 1

end Decimal

/-! ## Text -/

/-- The words that stand for the numbers which no digits can write. -/
structure DoubleWords where
  notANumber : String
  infinity : String

/-- Digits without the zeros at their end, and how many there were. -/
def stripZeros (digits : List Char) : List Char × Nat :=
  let kept := (digits.reverse.dropWhile (· == '0')).reverse
  (kept, digits.length - kept.length)

/-- A decimal in text: positional from `10 ^ -4` up to `10 ^ 16`, with a point and at least one place;
otherwise one digit before the point and an exponent of at least two digits. -/
def Decimal.text (d : Decimal) : List Char :=
  if d.digits = 0 then "0.0".toList
  else
    let (digits, zeros) := stripZeros (Nat.toDigits 10 d.digits)
    let low : Int := d.exponent + zeros
    let point : Int := digits.length + low
    if -4 < point ∧ point ≤ 16 then
      if point ≤ 0 then '0' :: '.' :: (List.replicate (-point).toNat '0' ++ digits)
      else if digits.length ≤ point.toNat then
        digits ++ List.replicate (point.toNat - digits.length) '0' ++ ['.', '0']
      else digits.take point.toNat ++ '.' :: digits.drop point.toNat
    else
      let exponent := point - 1
      let written := Nat.toDigits 10 exponent.natAbs
      let fraction := match digits.drop 1 with
        | [] => []
        | rest => '.' :: rest
      digits.take 1 ++ fraction ++ 'e' :: (if exponent < 0 then '-' else '+') ::
        (List.replicate (2 - written.length) '0' ++ written)

/-- A double in text. -/
def Double.text (words : DoubleWords) : Double → String
  | .notANumber => words.notANumber
  | .infinite negative => (if negative then "-" else "") ++ words.infinity
  | .finite negative mantissa exponent =>
    (if negative then "-" else "") ++
      String.ofList (Decimal.shortest mantissa exponent).text

end TemplateDocs
