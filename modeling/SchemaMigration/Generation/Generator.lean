import SchemaMigration.Archive.Writer
import SchemaMigration.Generation.Collection
import SchemaMigration.Generation.Config
import SchemaMigration.Generation.Production
import SchemaMigration.Generation.Sequencer
import SchemaMigration.Generation.Stage
import SchemaMigration.Migration.Assembly

/-!
# `SchemaMigration.Generation.Generator`: migrations of a schema

A run checks the settings and the schema first, then makes one migration for each
table, one for all foreign keys if there are any, and the snapshot of the schema,
stage after stage. Nothing is made of a schema that is refused. The artifacts are
collected in memory or packed into an archive.

A run takes the current time as an argument. It counts only where the settings
have no base time.
-/

set_option autoImplicit false

namespace SchemaMigration

open SchemaMigration.Calendar

namespace Generator

/-- The names that migrations are called by: the tables', and the settings' name for the
migration of foreign keys when a column relates to another. -/
def migrationNames (config : Config) (model : Model) : List String :=
  model.tables.map (·.name) ++
    if 0 < model.relationCount then [config.relationsName] else []

/-- Checks that names have distinct classes. The classes of earlier names are in `seen`, the
latest first. -/
def checkClasses (seen : List (String × String)) : List String → Except Error Unit
  | [] => .ok ()
  | name :: rest =>
    let class' := className name
    match seen.lookup class' with
    | some previous => .error (.duplicateArtifact class' (.sameMigration previous name))
    | none => checkClasses ((class', name) :: seen) rest

/-- Checks settings and schema. The result is the warnings. -/
def check (config : Config) (model : Model) : Except Error (List String) := do
  config.validate
  let warnings ← model.validate config.strictness
  checkClasses [] (migrationNames config model)
  return warnings

/-- The statements of a table's migration. -/
def statements (table : Table) (columns : List Column) : List String :=
  columns.map Column.statement ++
    (if table.timestamps then [Statement.timestamps] else []) ++
    if table.softDelete then [Statement.softDeletes] else []

/-- What a run carries along. -/
structure Progress where
  stage : Stage := .idle
  sequencer : Sequencer
  /-- The foreign keys of the tables processed. -/
  relations : RelationSet := .empty

/-- Moves a run on to a stage. -/
def Progress.advance (progress : Progress) (next : Stage) : Except Error Progress := do
  return { progress with stage := ← progress.stage.advance next }

/-- Makes the migration of a table and adds its foreign keys to the others. -/
def processTable (model : Model) (assembler : Assembler) (progress : Progress)
    (table : Table) : Production Progress := do
  let columns ← .lift (model.columnsFor table)
  let (key, sequencer) ← .lift progress.sequencer.next
  let file ← .lift
    (assembler.tableMigration key table.name (Assembler.indent (statements table columns)))
  .emit file
  return { progress with sequencer, relations := progress.relations.addTable table columns }

/-- Makes the migrations of tables, one after the other. -/
def processEach (model : Model) (assembler : Assembler) :
    Progress → List Table → Production Progress
  | progress, [] => return progress
  | progress, table :: rest => do
    let progress ← processTable model assembler progress table
    processEach model assembler progress rest

/-- Makes the migrations of all tables. The run has only their foreign keys from then on. -/
def processTables (model : Model) (assembler : Assembler) (progress : Progress) :
    Production Progress := do
  let progress ← .lift (progress.advance .processing)
  processEach model assembler { progress with relations := .empty } model.tables

/-- Makes the migration of foreign keys, if there are any. -/
def processRelations (config : Config) (assembler : Assembler) (progress : Progress) :
    Production Progress := do
  let progress ← .lift (progress.advance .aggregatingRelations)
  match RelationBlocks.ofSet? progress.relations with
  -- Without relations no key is used up.
  | none => return progress
  | some blocks => do
    let (key, sequencer) ← .lift progress.sequencer.next
    let file ← .lift (assembler.relationsMigration key config.relationsName blocks)
    .emit file
    return { progress with sequencer }

/-- Makes the snapshot of the schema. -/
def finalize (schema : Schema) (progress : Progress) : Production Progress := do
  let progress ← .lift (progress.advance .finalizing)
  .emit (.snapshot schema.snapshot)
  return progress

/-- All artifacts of a schema. -/
def produce (config : Config) (now : Moment) (schema : Schema) : Production Unit := do
  let sequencer ←
    .lift (Sequencer.start (config.baseTime.getD now) config.stepSeconds.toInt)
  let assembler ← .lift (Assembler.ofExtension config.extension)
  let progress ← processTables schema.toModel assembler { sequencer }
  let progress ← processRelations config assembler progress
  let progress ← finalize schema progress
  let _ ← .lift (progress.advance .closed)

/-- Runs in memory. -/
def generate (config : Config) (now : Moment) (schema : Schema) : Except Error Collection := do
  let warnings ← check config schema.toModel
  let sink : Collection := { warnings }
  let (collection, outcome) := (produce config now schema).into (m := Id) Collection.take sink
  outcome
  return collection

end Generator

/-- An archive that a run wrote. -/
structure GeneratedArchive where
  path : String
  /-- The names of the entries, in order. -/
  entries : List String
  warnings : List String
  deriving DecidableEq, Repr

namespace Generator

variable {m : Type → Type} [Monad m] [Storage m]

/-- Runs into an archive at the path of the settings. After an error nothing of it is left. -/
def generateArchive (config : Config) (now : Moment) (schema : Schema) :
    ExceptT Error m GeneratedArchive := do
  let warnings ← ExceptT.mk (pure (check config schema.toModel))
  let (writer, outcome) ← ExceptT.lift
    ((produce config now schema).into ArchiveWriter.accept (ArchiveWriter.new config.output))
  match outcome with
  | .error error => do
    ExceptT.lift writer.drop
    throw error
  | .ok () => do
    let (result, writer) ← ExceptT.lift writer.close
    -- The writer goes out of scope here, whether or not the archive is in place.
    ExceptT.lift writer.drop
    let path ← ExceptT.mk (pure result)
    return { path, entries := writer.names, warnings }

end Generator

end SchemaMigration
