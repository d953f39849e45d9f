import SchemaMigration.Schema.Document
import SchemaMigration.Storage.Basic

/-!
# `SchemaMigration.Schema.Storage`: schemas in files and archives
-/

set_option autoImplicit false

namespace SchemaMigration.Schema

variable {m : Type → Type} [Monad m] [Storage m]

/-- Reads a schema from a document file. -/
def load (path : String) : ExceptT Error m Schema := do
  let bytes ← Storage.attempt (Storage.readBytes path) (.fileRead path)
  ExceptT.mk (pure (ofBytes bytes))

/-- Writes the document of a schema's model to a file. -/
def save (schema : Schema) (path : String) : ExceptT Error m Unit :=
  Storage.attempt (Storage.writeText path schema.toText) (.fileWrite path)

/-- The error of an archive that cannot be read. -/
def archiveError (path : String) : ArchiveFault → Error
  | .unreadable reason => .fileRead path reason
  | .notAnArchive reason => .badArchive reason

/-- The error of an entry that has no text. -/
def entryError : EntryFault → Error
  | .unopened reason => .badArchive reason
  | .damaged reason => .storage reason

/-- Reads the schema whose snapshot is in an archive. -/
def loadFromArchive (path : String) : ExceptT Error m Schema := do
  let members ← Storage.attempt (Storage.readArchive path) (archiveError path)
  match members.find? fun member => member.name = snapshotName with
  | none => throw (.badArchive "specified file not found in archive")
  | some member =>
    match member.text with
    | .ok text => ExceptT.mk (pure (ofText text))
    | .error fault => throw (entryError fault)

end SchemaMigration.Schema
