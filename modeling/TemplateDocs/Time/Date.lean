/-!
# Dates and moments

Days of the calendar, and moments of a day with an optional distance from universal time.
-/

namespace TemplateDocs

/-! ## Dates -/

/-- A day of the calendar. -/
structure Date where
  year : Nat
  month : Nat
  day : Nat
  deriving DecidableEq, Repr, Inhabited

namespace Date

/-- Whether a year has a leap day. -/
def isLeap (year : Nat) : Bool :=
  (year % 4 == 0 && year % 100 != 0) || year % 400 == 0

/-- The number of days of a month. -/
def monthDays (year month : Nat) : Nat :=
  if month == 2 then (if isLeap year then 29 else 28)
  else if [4, 6, 9, 11].contains month then 30
  else 31

/-- Whether a day exists. -/
def isReal (d : Date) : Bool :=
  decide (1 ≤ d.year) && decide (1 ≤ d.month) && decide (d.month ≤ 12) && decide (1 ≤ d.day) &&
    decide (d.day ≤ monthDays d.year d.month)

/-- The days before a day, counted from the first day of the first year. -/
def number (d : Date) : Nat :=
  let years := d.year - 1
  let months := (List.range (d.month - 1)).foldl (fun n m => n + monthDays d.year (m + 1)) 0
  365 * years + years / 4 - years / 100 + years / 400 + months + (d.day - 1)

end Date

/-! ## Moments -/

/-- A moment of a day. -/
structure Moment where
  date : Date
  hour : Nat
  minute : Nat
  second : Nat
  microsecond : Nat := 0
  /-- The distance from universal time in minutes, if it is known. -/
  offset : Option Int := none
  deriving DecidableEq, Repr, Inhabited

namespace Moment

/-- The minutes of a day. -/
def dayMinutes : Nat := 1440

/-- Whether a moment exists. A distance from universal time is less than a day. -/
def isReal (m : Moment) : Bool :=
  m.date.isReal && decide (m.hour < 24) && decide (m.minute < 60) && decide (m.second < 60) &&
    decide (m.microsecond < 1000000) && m.offset.all fun n => decide (n.natAbs < dayMinutes)

/-- The microseconds before a moment, counted in universal time if that is known. -/
def instant (m : Moment) : Int :=
  let minutes : Int :=
    (m.date.number * dayMinutes + 60 * m.hour + m.minute : Nat) - m.offset.getD 0
  (minutes * 60 + m.second) * 1000000 + m.microsecond

/-- Whether two moments are the same. One without a known distance from universal time is never the
same as one with it. -/
def same (a b : Moment) : Bool :=
  a.offset.isSome == b.offset.isSome && a.instant == b.instant

end Moment

/-! ## Texts -/

/-- A number in at least so many digits. -/
def paddedDigits (width n : Nat) : String :=
  let digits := toString n
  String.ofList (List.replicate (width - digits.length) '0') ++ digits

/-- A date shown alone. -/
def Date.text (d : Date) : String :=
  paddedDigits 4 d.year ++ "-" ++ paddedDigits 2 d.month ++ "-" ++ paddedDigits 2 d.day

/-- The numbers of a date with commas between them. -/
def Date.numbers (d : Date) : String :=
  toString d.year ++ ", " ++ toString d.month ++ ", " ++ toString d.day

/-- A date inside of a list or a mapping. -/
def Date.shown (d : Date) : String :=
  "datetime.date(" ++ d.numbers ++ ")"

namespace Moment

/-- The distance from universal time in hours and minutes. -/
def offsetText : Option Int → String
  | none => ""
  | some n =>
    (if n < 0 then "-" else "+") ++ paddedDigits 2 (n.natAbs / 60) ++ ":" ++
      paddedDigits 2 (n.natAbs % 60)

/-- A moment shown alone. -/
def text (m : Moment) : String :=
  m.date.text ++ " " ++ paddedDigits 2 m.hour ++ ":" ++ paddedDigits 2 m.minute ++ ":" ++
    paddedDigits 2 m.second ++
    (if m.microsecond = 0 then "" else "." ++ paddedDigits 6 m.microsecond) ++ offsetText m.offset

/-- The distance from universal time inside of a shown moment. A negative one is a day less than
nothing and the seconds that are left. -/
def offsetShown : Option Int → String
  | none => ""
  | some n =>
    if n = 0 then ", tzinfo=datetime.timezone.utc"
    else
      let delta :=
        if 0 < n then "seconds=" ++ toString (60 * n.natAbs)
        else "days=-1, seconds=" ++ toString (60 * (dayMinutes - n.natAbs))
      ", tzinfo=datetime.timezone(datetime.timedelta(" ++ delta ++ "))"

/-- A moment inside of a list or a mapping. Seconds and parts of them are left out where they are
zero to the end. -/
def shown (m : Moment) : String :=
  let numbers := [m.hour, m.minute] ++
    (if m.second = 0 ∧ m.microsecond = 0 then [] else [m.second]) ++
    (if m.microsecond = 0 then [] else [m.microsecond])
  "datetime.datetime(" ++ m.date.numbers ++ String.join (numbers.map fun n => ", " ++ toString n) ++
    offsetShown m.offset ++ ")"

end Moment

end TemplateDocs
