/-!
# Moments and their calendar text

A moment is a number of seconds since the start of 1970 and the nanoseconds after them. Its text is the
date and the time of day to the millisecond, in the calendar that is extended backwards and forwards.
-/

set_option autoImplicit false

namespace Stepwise

/-- A point in time. During a leap second the nanoseconds go on beyond a whole second. -/
structure Moment where
  seconds : Int
  nanos : Nat

/-- A day of the calendar. -/
structure Date where
  year : Int
  month : Nat
  day : Nat
deriving DecidableEq, Repr

namespace Date

/-- The date of a number of days since the start of 1970. Years are counted from March, so that the
leap day is the last of a year, and in cycles of four hundred years. -/
def ofDays (days : Int) : Date :=
  let shifted := days + 719468
  let cycle := shifted / 146097
  let ofCycle := (shifted % 146097).toNat
  let yearOfCycle := (ofCycle - ofCycle / 1460 + ofCycle / 36524 - ofCycle / 146096) / 365
  let ofYear := ofCycle - (365 * yearOfCycle + yearOfCycle / 4 - yearOfCycle / 100)
  let fromMarch := (5 * ofYear + 2) / 153
  let day := ofYear - (153 * fromMarch + 2) / 5 + 1
  let month := if fromMarch < 10 then fromMarch + 3 else fromMarch - 9
  let year := (yearOfCycle : Int) + cycle * 400
  ⟨if month ≤ 2 then year + 1 else year, month, day⟩

end Date

/-- The digits of a number, filled up with zeros to a width. -/
def padded (width n : Nat) : String :=
  let digits := Nat.toDigits 10 n
  String.ofList (List.replicate (width - digits.length) '0' ++ digits)

/-- The first and the last year that a moment may lie in. -/
def firstYear : Int := -262143
/-- The last year a date can have. -/
def lastYear : Int := 262142

namespace Date

/-- The text of a year: four digits, and a sign where these do not suffice. -/
def yearText (year : Int) : String :=
  if 0 ≤ year ∧ year ≤ 9999 then padded 4 year.toNat
  else (if year < 0 then "-" else "+") ++ padded 4 year.natAbs

/-- The text of a date. -/
def text (date : Date) : String :=
  yearText date.year ++ "-" ++ padded 2 date.month ++ "-" ++ padded 2 date.day

end Date

namespace Moment

/-- The date of a moment. -/
def date (moment : Moment) : Date := Date.ofDays (moment.seconds / 86400)

/-- The second of the day. -/
def secondOfDay (moment : Moment) : Nat := (moment.seconds % 86400).toNat

/-- A moment that the calendar has: its year is in range, and only the last second of a minute may be a
leap second. -/
def isValid (moment : Moment) : Bool :=
  firstYear ≤ moment.date.year && moment.date.year ≤ lastYear && moment.nanos < 2 * Nat.pow 10 9 &&
  (moment.nanos < Nat.pow 10 9 || moment.secondOfDay % 60 == 59)

/-- The text of a moment, to the millisecond. -/
def iso (moment : Moment) : String :=
  let second := moment.secondOfDay
  moment.date.text ++ "T" ++ padded 2 (second / 3600) ++ ":" ++ padded 2 (second / 60 % 60) ++ ":" ++
  padded 2 (second % 60 + moment.nanos / Nat.pow 10 9) ++ "." ++
  padded 3 (moment.nanos % Nat.pow 10 9 / Nat.pow 10 6) ++ "Z"

/-- The text of a moment, if the calendar has it. -/
def iso? (moment : Moment) : Option String := if moment.isValid then some moment.iso else none

/-- The milliseconds since the start of 1970. -/
def milliseconds (moment : Moment) : Int := moment.seconds * 1000 + moment.nanos / Nat.pow 10 6

end Moment

end Stepwise
