import SchemaMigration.Schema.Document
import SchemaMigration.Text.Find

/-!
# `SchemaMigration.Migration.Artifact`: files that a run produces

The name of a migration file is a key, which orders it, and a suffix, which says
what it creates. The suffix starts at the first `_create_`.
-/

set_option autoImplicit false

namespace SchemaMigration

/-- What a file holds. -/
inductive Artifact.Kind where
  | table
  | relations
  | snapshot
  deriving DecidableEq, Repr

/-- A file that a run produces. -/
structure Artifact where
  path : String
  content : String
  kind : Artifact.Kind
  deriving DecidableEq, Repr

/-- What stands between the key of a file name and the name of its table. -/
def keySeparator : String := "_create_"

namespace Artifact

/-- The snapshot of a schema. -/
def snapshot (content : String) : Artifact :=
  { path := snapshotName, content, kind := .snapshot }

/-- The file name of a migration. -/
def fileName (key name extension : String) : String :=
  key ++ keySeparator ++ name ++ "_table." ++ extension

/-- The key of a file name. -/
def key? (artifact : Artifact) : Option String :=
  (Text.cut? keySeparator.toList artifact.path.toList).map fun (before, _) =>
    String.ofList before

/-- The file name without its key. -/
def suffix? (artifact : Artifact) : Option String :=
  (Text.cut? keySeparator.toList artifact.path.toList).map fun (_, after) =>
    keySeparator ++ String.ofList after

/-- Whether the file is a migration. -/
def isMigration (artifact : Artifact) : Bool :=
  artifact.kind != .snapshot

/-- The size of the content in bytes. -/
def byteSize (artifact : Artifact) : Nat :=
  artifact.content.utf8ByteSize

end Artifact

end SchemaMigration
