import TemplateDocs.Text.Search
import TemplateDocs.Time.Date

/-!
# Written dates and moments

A date is a year, a month and a day with dashes between them. A moment is a date, a time with colons,
and a time zone.
-/

namespace TemplateDocs.Yaml

/-! ## Parts -/

/-- The value of digits. -/
def decimal (digits : List Char) : Nat :=
  digits.foldl (fun n d => 10 * n + (d.toNat - 48)) 0

/-- Whether there are digits only, and between `least` and `most` of them. -/
def areDigits (least most : Nat) (cs : List Char) : Bool :=
  cs.all Char.isDigit && least ≤ cs.length && cs.length ≤ most

/-- The blanks inside of a moment. -/
def isMomentBlank (c : Char) : Bool :=
  c == ' ' || c == '\t'

/-- A time of day as it is written, with the digits after the point and the distance from universal
time in minutes. -/
structure WrittenTime where
  hour : Nat
  minute : Nat
  second : Nat
  fraction : List Char := []
  offset : Option Int := none
  deriving DecidableEq, Repr, Inhabited

/-- A date as it is written, with the time if there is one. -/
structure Stamp where
  year : List Char
  month : List Char
  day : List Char
  time : Option WrittenTime := none
  deriving DecidableEq, Repr, Inhabited

/-! ## Reading -/

/-- The distance from universal time after its sign, in minutes. -/
def distance? (cs : List Char) : Option Nat :=
  match Text.splitOn ':' cs with
  | [hours] => if areDigits 1 2 hours then some (60 * decimal hours) else none
  | [hours, minutes] =>
    if areDigits 1 2 hours && areDigits 2 2 minutes then
      some (60 * decimal hours + decimal minutes)
    else none
  | _ => none

/-- The time zone at the end of a moment: nothing, the letter for universal time, or a distance from
it. -/
def zone? (cs : List Char) : Option (Option Int) :=
  match cs.dropWhile isMomentBlank with
  | [] => if cs.isEmpty then some none else none
  | ['Z'] => some (some 0)
  | '+' :: rest => (distance? rest).map fun n => some (n : Int)
  | '-' :: rest => (distance? rest).map fun n => some (-(n : Int))
  | _ => none

/-- The digits after a point, and what follows them. -/
def fractionOf : List Char → List Char × List Char
  | '.' :: rest => (rest.takeWhile Char.isDigit, rest.dropWhile Char.isDigit)
  | cs => ([], cs)

/-- A time with its time zone. -/
def time? (cs : List Char) : Option WrittenTime :=
  let hours := cs.takeWhile Char.isDigit
  match cs.dropWhile Char.isDigit with
  | ':' :: m1 :: m2 :: ':' :: s1 :: s2 :: rest =>
    let (fraction, rest) := fractionOf rest
    if areDigits 1 2 hours && areDigits 4 4 [m1, m2, s1, s2] then
      (zone? rest).map fun offset =>
        { hour := decimal hours, minute := decimal [m1, m2], second := decimal [s1, s2]
          fraction, offset }
    else none
  | _ => none

/-- The time after a date and the mark between them. -/
def timeAfter? : List Char → Option WrittenTime
  | mark :: rest =>
    if mark == 'T' || mark == 't' then time? rest
    else if isMomentBlank mark then time? (rest.dropWhile isMomentBlank)
    else none
  | [] => none

/-- The digits before a dash, and what follows it. -/
def digitsBeforeDash? (cs : List Char) : Option (List Char × List Char) :=
  match cs.dropWhile Char.isDigit with
  | '-' :: rest => some (cs.takeWhile Char.isDigit, rest)
  | _ => none

/-- A date or a moment as it is written. -/
def Stamp.ofText? (cs : List Char) : Option Stamp := do
  let (year, rest) ← digitsBeforeDash? cs
  let (month, rest) ← digitsBeforeDash? rest
  let day := rest.takeWhile Char.isDigit
  let after := rest.dropWhile Char.isDigit
  if !(areDigits 4 4 year && areDigits 1 2 month && areDigits 1 2 day) then none
  else if after.isEmpty then some { year, month, day }
  else (timeAfter? after).map fun time => { year, month, day, time := some time }

/-- Whether a stamp is one without being marked so: a date alone needs two digits for the month and
for the day. -/
def Stamp.isPlain (s : Stamp) : Bool :=
  s.time.isSome || (s.month.length == 2 && s.day.length == 2)

/-! ## Values -/

/-- The date of a stamp. -/
def Stamp.date (s : Stamp) : Date :=
  { year := decimal s.year, month := decimal s.month, day := decimal s.day }

/-- The microseconds that digits after a point stand for; more than six are cut off. -/
def microseconds (fraction : List Char) : Nat :=
  decimal (fraction.take 6 ++ List.replicate (6 - fraction.length) '0')

/-- The moment of a date and a time. -/
def WrittenTime.on (t : WrittenTime) (date : Date) : Moment :=
  { date, hour := t.hour, minute := t.minute, second := t.second
    microsecond := microseconds t.fraction, offset := t.offset }

end TemplateDocs.Yaml
