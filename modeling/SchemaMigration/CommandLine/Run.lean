import SchemaMigration.CommandLine.Command
import SchemaMigration.Generation.Generator
import SchemaMigration.Generation.Summary
import SchemaMigration.Schema.Storage
import SchemaMigration.Settings.File

/-!
# `SchemaMigration.CommandLine.Run`: what commands do

A command writes to two streams and may fail. What it wrote before a failure
stays written. A failure is a cause, and the contexts in which it arose, the
outermost first.
-/

set_option autoImplicit false

namespace SchemaMigration.CommandLine

open SchemaMigration.Calendar

/-- What a command wrote. -/
structure Transcript where
  out : String := ""
  warnings : String := ""
  deriving DecidableEq, Repr

/-- What made a command fail. -/
inductive Cause where
  | error (error : Error)
  /-- No file of a run has a name with this part. -/
  | noFile (part : String)
  deriving DecidableEq, Repr

/-- The wording of a cause. -/
def Cause.message : Cause → String
  | .error e => e.message
  | .noFile part => s!"no generated file matches '{part}'"

/-- Why a command failed. -/
structure Failure where
  contexts : List String
  cause : Cause
  deriving DecidableEq, Repr

/-- The wording of a failure: the outermost context, and below it what it comes from. -/
def Failure.report (failure : Failure) : String :=
  match failure.contexts ++ [failure.cause.message] with
  | [] => ""
  | [only] => s!"Error: {only}\n"
  | [outer, cause] => s!"Error: {outer}\n\nCaused by:\n    {cause}\n"
  | outer :: causes =>
    let numbered := causes.zipIdx.map fun (cause, i) => s!"    {i}: {cause}\n"
    s!"Error: {outer}\n\nCaused by:\n{String.join numbered}"

/-- A command over storage in `m`. -/
abbrev Console (m : Type → Type) : Type → Type :=
  ExceptT Failure (StateT Transcript m)

namespace Console

variable {m : Type → Type} [Monad m]

/-- Writes a text. -/
def put (text : String) : Console m Unit :=
  modify fun t => { t with out := t.out ++ text }

/-- Writes a line. -/
def putLine (line : String) : Console m Unit :=
  put (line ++ "\n")

/-- Writes a line for each warning. -/
def warn (warnings : List String) : Console m Unit :=
  modify fun t =>
    { t with warnings := t.warnings ++ String.join (warnings.map (s!"warning: {·}\n")) }

/-- Runs an action whose failure arises in these contexts. -/
def within {α : Type} (contexts : List String) (action : ExceptT Error m α) : Console m α :=
  ExceptT.mk do
    match ← (action.run : m (Except Error α)) with
    | .ok a => return .ok a
    | .error error => return .error { contexts, cause := .error error }

/-- Takes a result. -/
def check {α : Type} (result : Except Error α) : Console m α :=
  within [] (ExceptT.mk (pure result))

end Console

open Console

variable {m : Type → Type} [Monad m] [Storage m]

/-- The configuration of a command: the settings file over the defaults. A file that is asked
for has to be there. -/
def resolveConfig (config : Option String) : Console m Config := do
  let settings ← match config with
    | some path => do
      let settings ← within [s!"failed to load config {path}"] (Settings.load path)
      pure (some settings)
    | none =>
      within [s!"failed to load {Settings.fileName}"] (Settings.loadOptional Settings.fileName)
  return (settings.getD {}).applyTo {}

/-- Reads the schema of a command. -/
def loadSchema (path : String) : Console m Schema :=
  within [s!"failed to load schema from {path}"] (Schema.load path)

/-- Lets foreign keys be lenient if that is asked for. -/
def withLenient (lenient : Bool) (config : Config) : Config :=
  if lenient then { config with strictness := .lenient } else config

/-- The configuration with what the command line gives. -/
def GenerateArguments.applyTo (a : GenerateArguments) (config : Config) : Config :=
  withLenient a.lenientForeignKeys
    { config with
      output := a.output.getD config.output
      baseTime := a.baseTime <|> config.baseTime
      stepSeconds := a.stepSeconds.getD config.stepSeconds
      overwrite := a.overwrite || config.overwrite }

/-- Writes migrations to a directory or an archive. -/
def runGenerate (a : GenerateArguments) (config : Option String) (now : Moment) :
    Console m Unit := do
  let config := a.applyTo (← resolveConfig config)
  let schema ← loadSchema a.schema
  match a.directory with
  | some directory => do
    let output ← check (Generator.generate config now schema)
    warn output.warnings
    let written ← within [s!"failed to write migrations to {directory}"]
      (output.writeTo directory config.overwrite)
    put (String.join (written.map (s!"  + {·}\n")))
    putLine ""
    put (Summary.ofCollection output).text
    putLine s!"✓ Wrote {written.length} migrations to {directory}"
  | none => do
    let archive ← within [s!"failed to generate {config.output}"]
      (Generator.generateArchive config now schema)
    warn archive.warnings
    let entries := s!"({archive.entries.length} entries)"
    putLine s!"✓ Generated {schema.tables.length} table migrations into {archive.path} {entries}"

/-- Checks a schema. -/
def runValidate (a : ValidateArguments) (config : Option String) : Console m Unit := do
  let config := withLenient a.lenientForeignKeys (← resolveConfig config)
  let schema ← loadSchema a.schema
  warn (← check (Generator.check config schema.toModel))
  let counts := s!"({schema.tables.length} tables, {schema.relationCount} foreign keys)"
  putLine s!"✓ {a.schema} is valid {counts}"

/-- Prints the artifacts of a run, or the one whose name has a given part. -/
def runPreview (a : PreviewArguments) (config : Option String) (now : Moment) :
    Console m Unit := do
  let config ← resolveConfig config
  let config := withLenient a.lenientForeignKeys
    { config with baseTime := a.baseTime <|> config.baseTime }
  let schema ← loadSchema a.schema
  let output ← check (Generator.generate config now schema)
  warn output.warnings
  match a.file with
  | some part =>
    match output.files.find? fun f => Text.contains part.toList f.path.toList with
    | some file => put file.content
    | none => throw { contexts := [], cause := .noFile part }
  | none => do
    put (String.join (output.files.map fun f => s!"==> {f.path} <==\n{f.content}\n"))
    put (Summary.ofCollection output).text

/-- A text with blanks behind it up to a width. -/
def padRight (width : Nat) (text : String) : String :=
  text ++ String.ofList (List.replicate (width - text.length) ' ')

/-- A text with blanks before it up to a width. -/
def padLeft (width : Nat) (text : String) : String :=
  String.ofList (List.replicate (width - text.length) ' ') ++ text

/-- The line of an archive's entry. -/
def entryLine (member : ArchiveMember) : String :=
  s!"  {padRight 60 member.name} {padLeft 10 (Text.sizeText member.size)}\n"

/-- The error of an archive that cannot be listed. -/
def listingFailure (path : String) : ArchiveFault → Failure
  | .unreadable reason =>
    { contexts := [s!"failed to open {path}"], cause := .error (.storage reason) }
  | .notAnArchive reason =>
    { contexts := [s!"{path} is not a zip archive"], cause := .error (.badArchive reason) }

/-- Lists an archive. The list stops at an entry that cannot be opened. -/
def runInspect (a : InspectArguments) : Console m Unit := do
  let path := a.archive
  match ← (Storage.readArchive path : m (Except ArchiveFault (List ArchiveMember))) with
  | .error fault => throw (listingFailure path fault)
  | .ok members => do
    putLine path
    let listed := members.takeWhile fun member => member.openFault?.isNone
    put (String.join (listed.map entryLine))
    -- The entries before the damaged one have been listed by now.
    match members.findSome? ArchiveMember.openFault? with
    | some reason => throw { contexts := [], cause := .error (.badArchive reason) }
    | none => pure ()
    let schema ← within [s!"failed to read schema snapshot from {path}"]
      (Schema.loadFromArchive path)
    putLine ""
    let tables := s!"{schema.tables.length} tables"
    putLine s!"{members.length} entries, {tables}, {schema.relationCount} foreign keys"
    if a.showSchema then
      putLine ""
      putLine schema.snapshot

/-- Runs a command. -/
def Invocation.run (invocation : Invocation) (now : Moment) : Console m Unit :=
  match invocation.command with
  | .generate a => runGenerate a invocation.config now
  | .validate a => runValidate a invocation.config
  | .preview a => runPreview a invocation.config now
  | .inspect a => runInspect a

/-- Runs a command and tells what it wrote. -/
def Invocation.transcript (invocation : Invocation) (now : Moment) :
    m (Except Failure Unit × Transcript) :=
  ((invocation.run now : Console m Unit).run).run {}

end SchemaMigration.CommandLine
