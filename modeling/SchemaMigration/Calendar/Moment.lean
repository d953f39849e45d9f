import SchemaMigration.Calendar.Date

/-!
# `SchemaMigration.Calendar.Moment`: points in time

A moment is a day, a second of the day and a fraction in nanoseconds. A leap
second is the second before it with a fraction of at least one second. It is the
second 60 of a minute, so only the last second of a minute has such a fraction.
-/

set_option autoImplicit false

namespace SchemaMigration.Calendar

/-- A point in time without a zone. -/
structure Moment where
  /-- Days since 1 March of the year 0. -/
  day : Int
  second : Nat
  /-- The fraction of the second, past one second in a leap second. -/
  nanosecond : Nat
  second_lt : second < 86400
  nanosecond_lt : nanosecond < if second % 60 = 59 then 2000000000 else 1000000000
  deriving DecidableEq, Repr

namespace Moment

/-- The date of a moment. -/
def date (moment : Moment) : Date :=
  .ofDayNumber moment.day

/-- Whether the moment is inside a leap second. -/
def isLeap (moment : Moment) : Bool :=
  1000000000 ≤ moment.nanosecond

/-- The hour of the day. -/
def hour (moment : Moment) : Nat :=
  moment.second / 3600

/-- The minute of the hour. -/
def minute (moment : Moment) : Nat :=
  moment.second / 60 % 60

/-- The second of the minute, as a clock shows it: a leap second is the second after. -/
def secondOfMinute (moment : Moment) : Nat :=
  moment.second % 60 + moment.nanosecond / 1000000000

/-- The fraction of the second, as a clock shows it. -/
def fraction (moment : Moment) : Nat :=
  moment.nanosecond % 1000000000

/-- A fraction is less than a second. -/
theorem fraction_lt (moment : Moment) : moment.fraction < 1000000000 :=
  Nat.mod_lt _ (by decide)

/-- Whether the day is one of the calendar. -/
def isSupported (moment : Moment) : Bool :=
  Date.minYear ≤ moment.date.year && moment.date.year ≤ Date.maxYear

/-- The moment a number of seconds later, or earlier for a negative number. A moment in a
leap second leaves it first, back to the second before when time goes on and ahead to the
second after when it goes back. There is none outside the calendar. -/
def addSeconds? (moment : Moment) (seconds : Int) : Option Moment :=
  if seconds = 0 then some moment
  else
    let start : Int := moment.second + (if moment.isLeap ∧ seconds < 0 then 1 else 0)
    let total := start + seconds
    let sum : Moment :=
      { day := moment.day + total / 86400
        second := (total % 86400).toNat
        nanosecond := moment.fraction
        second_lt := by omega
        nanosecond_lt := by
          have := moment.fraction_lt
          split <;> omega }
    if sum.isSupported then some sum else none

end Moment

end SchemaMigration.Calendar
