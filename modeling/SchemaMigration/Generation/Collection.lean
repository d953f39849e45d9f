import SchemaMigration.Migration.Artifact
import SchemaMigration.Storage.Basic
import SchemaMigration.Storage.Path

/-!
# `SchemaMigration.Generation.Collection`: the artifacts of a run in memory

A collection keeps artifacts in the order of their making, and the warnings of
the run. Its migrations can be written to a directory. Unless they may replace
others, a directory that has a migration of the same suffix is refused before
anything is written.
-/

set_option autoImplicit false

namespace SchemaMigration

/-- The artifacts and warnings of a run. -/
structure Collection where
  files : List Artifact := []
  warnings : List String := []
  deriving DecidableEq, Repr

namespace Collection

/-- No artifacts. -/
def empty : Collection := {}

/-- Adds a file. -/
def add (c : Collection) (file : Artifact) : Collection :=
  { c with files := c.files ++ [file] }

/-- Adds a warning. -/
def warn (c : Collection) (warning : String) : Collection :=
  { c with warnings := c.warnings ++ [warning] }

/-- Adds a file that a run produced. Its path must be new. -/
def accept (c : Collection) (file : Artifact) : Except Error Collection :=
  if c.files.any fun f => f.path == file.path then
    .error (.duplicateArtifact file.path .inCollection)
  else .ok (c.add file)

/-- A collection as a sink: it takes a file, or refuses it and stays as it is. -/
def take (c : Collection) (file : Artifact) : Except Error Unit × Collection :=
  match c.accept file with
  | .ok kept => (.ok (), kept)
  | .error error => (.error error, c)

/-- The files of a kind. -/
def ofKind (c : Collection) (kind : Artifact.Kind) : List Artifact :=
  c.files.filter fun f => f.kind == kind

/-- The migration that adds foreign keys. -/
def relations? (c : Collection) : Option Artifact :=
  c.files.find? fun f => f.kind == .relations

/-- The snapshot of the schema. -/
def snapshot? (c : Collection) : Option Artifact :=
  c.files.find? fun f => f.kind == .snapshot

/-- The files that go to a directory. -/
def migrations (c : Collection) : List Artifact :=
  c.files.filter Artifact.isMigration

/-- Whether a file has a name that ends with the migration's suffix. -/
def clashes (name : String) (migration : Artifact) : Bool :=
  match migration.suffix? with
  | some suffix => suffix.toList.isSuffixOf name.toList
  | none => false

/-- The first name, and the first migration, that clash. -/
def findClash (migrations : List Artifact) (names : List String) :
    Option (String × Artifact) :=
  names.findSome? fun name => (migrations.find? (clashes name)).map fun m => (name, m)

variable {m : Type → Type} [Monad m] [Storage m]

/-- Refuses a directory that has a migration of the same suffix as one of these. The name of
the directory itself counts too. -/
def checkDirectory (migrations : List Artifact) (directory : String) : ExceptT Error m Unit := do
  if ← ExceptT.lift (Storage.pathExists directory) then
    let names ← Storage.attempt (Storage.namesIn directory) (.fileRead directory)
    match findClash migrations (Path.finalName directory :: names) with
    | some (name, migration) =>
      throw (.duplicateArtifact migration.path (.onDisk name directory))
    | none => return

/-- Writes one file to a directory. The result is its path. -/
def writeFile (directory : String) (file : Artifact) : ExceptT Error m String := do
  let path := Path.join directory file.path
  Storage.attempt (Storage.writeText path file.content) (.fileWrite path)
  return path

/-- Writes the migrations to a directory. The result is their paths. -/
def writeTo (c : Collection) (directory : String) (overwrite : Bool) :
    ExceptT Error m (List String) := do
  if !overwrite then checkDirectory c.migrations directory
  Storage.attempt (Storage.makeDirectories directory) (.fileWrite directory)
  c.migrations.mapM (writeFile directory)

end Collection

end SchemaMigration
