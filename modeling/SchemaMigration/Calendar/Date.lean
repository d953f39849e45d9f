/-!
# `SchemaMigration.Calendar.Date`: dates and day numbers

Dates of the proleptic Gregorian calendar, and the number of days from 1 March of
the year 0 to a date. A year is counted from March here, so that the leap day is
its last day. In a cycle of 400 such years the calendar repeats after 146097 days.
-/

set_option autoImplicit false

namespace SchemaMigration.Calendar

/-- A year, a month and a day. -/
structure Date where
  year : Int
  month : Nat
  day : Nat
  deriving DecidableEq, Repr

namespace Date

/-- Whether a year has a 29 February. -/
def isLeapYear (year : Int) : Bool :=
  year % 4 = 0 && (year % 100 ≠ 0 || year % 400 = 0)

/-- The number of days of a month. -/
def daysInMonth (year : Int) (month : Nat) : Nat :=
  if month = 2 then if isLeapYear year then 29 else 28
  else if month ∈ [4, 6, 9, 11] then 30
  else 31

/-- The first year of the calendar. -/
def minYear : Int := -262143

/-- The last year of the calendar. -/
def maxYear : Int := 262142

/-- Whether the date is a day of the calendar. -/
def isValid (date : Date) : Bool :=
  minYear ≤ date.year && date.year ≤ maxYear && 1 ≤ date.month && date.month ≤ 12 &&
    1 ≤ date.day && date.day ≤ daysInMonth date.year date.month

/-- The number of days from 1 March of the year 0. -/
def toDayNumber (date : Date) : Int :=
  -- January and February are the last two months of the year from March before. From March
  -- on, five months in a row have 153 days.
  let year := if date.month ≤ 2 then date.year - 1 else date.year
  let month := if date.month ≤ 2 then date.month + 9 else date.month - 3
  let dayOfYear := (153 * month + 2) / 5 + date.day - 1
  365 * year + year / 4 - year / 100 + year / 400 + dayOfYear

/-- The year of a cycle that a day of the cycle lies in. -/
def yearOfCycle (dayOfCycle : Nat) : Nat :=
  (dayOfCycle - dayOfCycle / 1460 + dayOfCycle / 36524 - dayOfCycle / 146096) / 365

/-- The number of days of a cycle before a year of it. -/
def daysBefore (yearOfCycle : Nat) : Nat :=
  365 * yearOfCycle + yearOfCycle / 4 - yearOfCycle / 100

/-- The day of the year that a day of the cycle is. -/
def dayOfYear (dayOfCycle : Nat) : Nat :=
  dayOfCycle - daysBefore (yearOfCycle dayOfCycle)

/-- The month that a day of the year lies in, with March as month 0. -/
def monthOfYear (dayOfYear : Nat) : Nat :=
  (5 * dayOfYear + 2) / 153

/-- The day of the month that a day of the year is. -/
def dayOfMonth (dayOfYear : Nat) : Nat :=
  dayOfYear - (153 * monthOfYear dayOfYear + 2) / 5 + 1

/-- The date that lies a number of days after 1 March of the year 0. -/
def ofDayNumber (n : Int) : Date :=
  let dayOfCycle := (n % 146097).toNat
  let year := 400 * (n / 146097) + yearOfCycle dayOfCycle
  let dayOfYear := dayOfYear dayOfCycle
  let month := monthOfYear dayOfYear
  let day := dayOfMonth dayOfYear
  if month < 10 then ⟨year, month + 3, day⟩ else ⟨year + 1, month - 9, day⟩

end Date

end SchemaMigration.Calendar
