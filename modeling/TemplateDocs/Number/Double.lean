/-!
# Double-precision numbers

A finite double is a whole mantissa times a power of two. Decimals are rounded to the nearest double
in exact arithmetic, ties to the even mantissa.
-/

namespace TemplateDocs

/-- A double-precision number. -/
inductive Double where
  /-- The number `mantissa * 2 ^ exponent`, negated if `negative`. -/
  | finite (negative : Bool) (mantissa : Nat) (exponent : Int)
  | infinite (negative : Bool)
  | notANumber
  deriving DecidableEq, Repr, Inhabited

namespace Double

/-! ## Rounding -/

/-- The quotient rounded to the nearest whole number, ties to the even one. -/
def roundQuotient (num den : Nat) : Nat :=
  let q := num / den
  let twice := 2 * (num % den)
  if twice < den then q
  else if den < twice then q + 1
  else if q % 2 = 0 then q else q + 1

/-- The quotient `num / den` scaled by `2 ^ (-exponent)` and rounded. -/
def scaled (num den : Nat) (exponent : Int) : Nat :=
  if 0 ≤ exponent then roundQuotient num (den * Nat.pow 2 exponent.toNat)
  else roundQuotient (num * Nat.pow 2 (-exponent).toNat) den

/-- The least exponent of a double. -/
def leastExponent : Int := -1074

/-- The greatest exponent of a double. -/
def greatestExponent : Int := 971

/-- The double nearest to the positive quotient `num / den`. -/
def nearestQuotient (negative : Bool) (num den : Nat) : Double :=
  let guess : Int := (Nat.log2 num : Int) - (Nat.log2 den : Int) - 52
  let below := if 0 ≤ guess then decide (num < den * Nat.pow 2 (guess.toNat + 52))
    else decide (num * Nat.pow 2 (-guess).toNat < den * Nat.pow 2 52)
  let exponent := max leastExponent (if below then guess - 1 else guess)
  let mantissa := scaled num den exponent
  if mantissa = Nat.pow 2 53 then
    if exponent + 1 > greatestExponent then infinite negative
    else finite negative (Nat.pow 2 52) (exponent + 1)
  else if exponent > greatestExponent then infinite negative
  else finite negative mantissa exponent

/-- The double nearest to `digits * 10 ^ exponent`. Decimals far beyond the range of doubles are
settled by their magnitude alone. -/
def ofDecimal (negative : Bool) (digits : Nat) (exponent : Int) : Double :=
  let magnitude : Int := (Nat.toDigits 10 digits).length + exponent
  if digits = 0 then finite negative 0 leastExponent
  else if magnitude > 310 then infinite negative
  else if magnitude < -330 then finite negative 0 leastExponent
  else if 0 ≤ exponent then nearestQuotient negative (digits * Nat.pow 10 exponent.toNat) 1
  else nearestQuotient negative digits (Nat.pow 10 (-exponent).toNat)

/-- The double nearest to `mantissa * 2 ^ exponent`. -/
def ofBinary (negative : Bool) (mantissa : Nat) (exponent : Int) : Double :=
  if mantissa = 0 then finite negative 0 leastExponent
  else if 0 ≤ exponent then nearestQuotient negative (mantissa * Nat.pow 2 exponent.toNat) 1
  else nearestQuotient negative mantissa (Nat.pow 2 (-exponent).toNat)

/-! ## Arithmetic -/

/-- A mantissa with its sign, scaled up from one exponent to a lower one. -/
def wholeAt (negative : Bool) (mantissa : Nat) (exponent low : Int) : Int :=
  (if negative then -1 else 1) * (mantissa * Nat.pow 2 (exponent - low).toNat : Nat)

/-- The number with the other sign. -/
def neg : Double → Double
  | finite negative mantissa exponent => finite (!negative) mantissa exponent
  | infinite negative => infinite (!negative)
  | notANumber => notANumber

/-- The double nearest to a sum. -/
def add : Double → Double → Double
  | notANumber, _ => notANumber
  | _, notANumber => notANumber
  | infinite n, infinite n' => if n == n' then infinite n else notANumber
  | infinite n, _ => infinite n
  | _, infinite n => infinite n
  | finite n m e, finite n' m' e' =>
    let low := min e e'
    let sum := wholeAt n m e low + wholeAt n' m' e' low
    if sum = 0 then finite (n && n') 0 leastExponent
    else ofBinary (decide (sum < 0)) sum.natAbs low

/-- The double nearest to a product. -/
def mul : Double → Double → Double
  | notANumber, _ => notANumber
  | _, notANumber => notANumber
  | infinite n, infinite n' => infinite (n != n')
  | infinite n, finite n' m _ => if m = 0 then notANumber else infinite (n != n')
  | finite n m _, infinite n' => if m = 0 then notANumber else infinite (n != n')
  | finite n m e, finite n' m' e' => ofBinary (n != n') (m * m') (e + e')

/-! ## Views -/

/-- Whether the number is zero. -/
def isZero : Double → Bool
  | finite _ mantissa _ => mantissa == 0
  | _ => false

/-- Whether the number is below zero. -/
def isNegative : Double → Bool
  | finite negative mantissa _ => negative && mantissa != 0
  | infinite negative => negative
  | notANumber => false

/-- Whether one number is below another; nothing compares with what is not a number. -/
def less : Double → Double → Bool
  | notANumber, _ => false
  | _, notANumber => false
  | infinite true, infinite true => false
  | infinite true, _ => true
  | _, infinite true => false
  | infinite false, _ => false
  | _, infinite false => true
  | finite n m e, finite n' m' e' =>
    let low := min e e'
    decide (wholeAt n m e low < wholeAt n' m' e' low)

/-- Whether two numbers are equal; what is not a number is equal to nothing. -/
def equal : Double → Double → Bool
  | notANumber, _ => false
  | _, notANumber => false
  | x, y => !x.less y && !y.less x

/-- The double nearest to a whole number. -/
def ofInt (n : Int) : Double :=
  ofDecimal (decide (n < 0)) n.natAbs 0

/-- Whether a number is exactly a whole one. -/
def isInt (x : Double) (n : Int) : Bool :=
  match x with
  | finite negative mantissa exponent =>
    let low := min exponent 0
    wholeAt negative mantissa exponent low == wholeAt (decide (n < 0)) n.natAbs 0 low
  | _ => false

end Double

end TemplateDocs
