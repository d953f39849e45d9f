import SchemaMigration.Error

/-!
# `SchemaMigration.Generation.Stage`: the stages of a run

A run goes through its stages in one order and skips none. Any other move is a fault
of the run itself.
-/

set_option autoImplicit false

namespace SchemaMigration

/-- Where a run stands. -/
inductive Stage where
  | idle
  /-- Migrations of tables are made. -/
  | processing
  /-- The migration of foreign keys is made. -/
  | aggregatingRelations
  /-- The snapshot is made. -/
  | finalizing
  | closed
  deriving DecidableEq, Repr

namespace Stage

/-- The name of a stage in messages. -/
def name : Stage → String
  | .idle => "Idle"
  | .processing => "Processing"
  | .aggregatingRelations => "AggregatingRelations"
  | .finalizing => "Finalizing"
  | .closed => "Closed"

/-- The stage behind a stage. There is none behind the last. -/
def next? : Stage → Option Stage
  | .idle => some .processing
  | .processing => some .aggregatingRelations
  | .aggregatingRelations => some .finalizing
  | .finalizing => some .closed
  | .closed => none

/-- Moves on to a stage, which has to be the one behind. -/
def advance (stage next : Stage) : Except Error Stage :=
  if stage.next? = some next then .ok next
  else .error (.internal s!"illegal stage transition {stage.name} -> {next.name}")

end Stage

end SchemaMigration
