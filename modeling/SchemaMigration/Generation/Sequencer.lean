import SchemaMigration.Calendar.MomentText
import SchemaMigration.Error

/-!
# `SchemaMigration.Generation.Sequencer`: the keys that order migrations

A sequencer hands out one key after the other. Each key is the text of a moment,
and the moments lie a fixed step apart, so the keys of one run sort in the order
in which they were handed out. That holds while years have four digits, and a
moment of any other year is refused. Keys are counted in a 32-bit word, and a count
that does not fit ends the run.
-/

set_option autoImplicit false

namespace SchemaMigration

open SchemaMigration.Calendar
open SchemaMigration.Text (padded)

namespace Calendar.Moment

/-- Whether the year of a moment has four digits. -/
def hasKey (moment : Moment) : Bool :=
  0 ≤ moment.date.year && moment.date.year ≤ 9999

/-- The key of a moment: `YYYY_MM_DD_HHMMSS`. -/
def key (moment : Moment) : String :=
  let date := moment.date
  yearText date.year ++ "_" ++ padded 2 date.month ++ "_" ++ padded 2 date.day ++ "_" ++
    padded 2 moment.hour ++ padded 2 moment.minute ++ padded 2 moment.secondOfMinute

end Calendar.Moment

/-- Where a sequence of keys stands. -/
structure Sequencer where
  /-- The moment of the first key. -/
  base : Moment
  /-- Seconds between keys. -/
  step : Int
  /-- The number of keys handed out, as a 32-bit word. -/
  issued : Int32
  deriving DecidableEq, Repr

namespace Sequencer

/-- The longest step: more seconds are no span of milliseconds. -/
def maxStep : Int := 9223372036854775

/-- A sequencer that has handed out no key. The step is at least the second that a key
resolves. -/
def start (base : Moment) (step : Int) : Except Error Sequencer :=
  if step < 1 then .error (.configuration (.sequencerStepTooShort step))
  else if maxStep < step then .error (.configuration (.sequencerStepTooLong step))
  else .ok { base, step, issued := 0 }

/-- The moment of the next key. -/
def moment? (s : Sequencer) : Option Moment :=
  s.base.addSeconds? (s.step * s.issued.toInt)

/-- The sequencer after one more key. -/
def advance (s : Sequencer) : Except Error Sequencer :=
  if s.issued = Int32.maxValue then .error (.internal "attempt to add with overflow")
  else .ok { s with issued := s.issued + 1 }

/-- The next key, and the sequencer behind it. -/
def next (s : Sequencer) : Except Error (String × Sequencer) :=
  match s.moment? with
  | none => .error (.configuration .sequenceOverflow)
  | some moment =>
    if moment.hasKey then s.advance.map fun behind => (moment.key, behind)
    else .error (.configuration (.yearWithoutKey moment.text))

/-- The number of keys handed out. -/
def count (s : Sequencer) : Nat :=
  (s.issued.toInt % UInt64.size).toNat

end Sequencer

end SchemaMigration
