/-!
# Points in time

An instant counts seconds from the start of 1970 in universal time, with nanoseconds. A leap second is kept
as the second before it with a thousand million nanoseconds more. Dates follow the proleptic Gregorian
calendar.
-/

namespace Clearing

/-- A point in time in universal time. -/
structure Instant where
  seconds : Int
  nanos : Nat
  nanos_lt : nanos < 2000000000 := by decide
deriving DecidableEq

/-- A calendar date; months and days count from one. -/
structure Date where
  year : Int
  month : Nat
  day : Nat
deriving DecidableEq

namespace Date

/-- Whether a year has 366 days. -/
def isLeapYear (year : Int) : Bool :=
  year % 4 == 0 && (year % 100 != 0 || year % 400 == 0)

/-- The number of days of a month. -/
def daysInMonth (year : Int) (month : Nat) : Nat :=
  match month with
  | 2 => if isLeapYear year then 29 else 28
  | 4 | 6 | 9 | 11 => 30
  | _ => 31

/-- The least year of a valid date. -/
def minYear : Int := -262143

/-- The largest year of a valid date. -/
def maxYear : Int := 262142

/-- Whether a date exists and its year is in range. -/
def isValid (d : Date) : Bool :=
  decide (minYear ≤ d.year) && decide (d.year ≤ maxYear)
    && decide (1 ≤ d.month) && decide (d.month ≤ 12)
    && decide (1 ≤ d.day) && decide (d.day ≤ daysInMonth d.year d.month)

/-- Days from the start of 1970; years are counted from March, so that a leap day ends one. -/
def dayNumber (d : Date) : Int :=
  let y : Int := if d.month ≤ 2 then d.year - 1 else d.year
  let era := y / 400
  let yearOfEra := y % 400
  let month : Int := if 2 < d.month then (d.month : Int) - 3 else d.month + 9
  let dayOfYear := (153 * month + 2) / 5 + d.day - 1
  let dayOfEra := yearOfEra * 365 + yearOfEra / 4 - yearOfEra / 100 + dayOfYear
  era * 146097 + dayOfEra - 719468

/-- The date that lies this many days after the start of 1970. -/
def ofDayNumber (days : Int) : Date :=
  let z := days + 719468
  let era := z / 146097
  let dayOfEra := z % 146097
  let yearOfEra := (dayOfEra - dayOfEra / 1460 + dayOfEra / 36524 - dayOfEra / 146096) / 365
  let dayOfYear := dayOfEra - (365 * yearOfEra + yearOfEra / 4 - yearOfEra / 100)
  let shifted := (5 * dayOfYear + 2) / 153
  let day := dayOfYear - (153 * shifted + 2) / 5 + 1
  let month := if shifted < 10 then shifted + 3 else shifted - 9
  let year := yearOfEra + era * 400 + if month ≤ 2 then 1 else 0
  { year, month := month.toNat, day := day.toNat }

end Date

namespace Instant

/-- The start of 1970. -/
def epoch : Instant := { seconds := 0, nanos := 0 }

instance : Inhabited Instant := ⟨epoch⟩

/-- Whether one instant is strictly earlier than another. -/
def before (a b : Instant) : Bool :=
  decide (a.seconds < b.seconds) || (a.seconds == b.seconds && decide (a.nanos < b.nanos))

/-- The instant this many seconds later. -/
def addSeconds (t : Instant) (n : Int) : Instant := { t with seconds := t.seconds + n }

/-- The number of seconds in a day. -/
def secondsPerDay : Int := 86400

/-- The date of an instant. -/
def date (t : Instant) : Date := Date.ofDayNumber (t.seconds / secondsPerDay)

end Instant
end Clearing
