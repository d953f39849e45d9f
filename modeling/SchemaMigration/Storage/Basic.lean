import SchemaMigration.Error

/-!
# `SchemaMigration.Storage.Basic`: what a run asks of its storage

A `Storage` reads and writes files, directories and archives. An operation that
fails says why in a text. An archive is made in a temporary file beside its target:
it is opened there, takes in one entry after the other, and then is put in place as
a whole or discarded.
-/

set_option autoImplicit false

namespace SchemaMigration

/-- The names and texts of the entries that an archive is written with, in order. -/
abbrev ArchiveEntries := List (String × String)

/-- Why an entry of an archive has no text. -/
inductive EntryFault where
  /-- The entry cannot be opened. -/
  | unopened (reason : String)
  /-- The entry is opened, but its bytes are no text or not those that were packed. -/
  | damaged (reason : String)
  deriving DecidableEq, Repr

/-- Texts of entries can be compared. -/
instance EntryFault.decidableEqExcept : DecidableEq (Except EntryFault String)
  | .ok a, .ok b => decidable_of_iff (a = b) (by simp)
  | .error a, .error b => decidable_of_iff (a = b) (by simp)
  | .ok _, .error _ | .error _, .ok _ => .isFalse nofun

/-- An entry of an archive as it is found there. -/
structure ArchiveMember where
  name : String
  /-- The size of the text in bytes, as the archive tells it. -/
  size : Nat
  text : Except EntryFault String
  deriving DecidableEq, Repr

namespace ArchiveMember

/-- An entry as it is read after it was written. -/
def ofEntry (name text : String) : ArchiveMember where
  name
  size := text.utf8ByteSize
  text := .ok text

/-- Why the entry cannot be opened. -/
def openFault? (member : ArchiveMember) : Option String :=
  match member.text with
  | .error (.unopened reason) => some reason
  | _ => none

end ArchiveMember

/-- Why an archive cannot be read. -/
inductive ArchiveFault where
  /-- The file cannot be opened. -/
  | unreadable (reason : String)
  /-- The file is no archive. -/
  | notAnArchive (reason : String)
  deriving DecidableEq, Repr

/-- Storage with effects in `m`. -/
class Storage (m : Type → Type) where
  /-- Reads a file. -/
  readBytes (path : String) : m (Except String (List UInt8))
  /-- Reads an archive. The entries have distinct names. -/
  readArchive (path : String) : m (Except ArchiveFault (List ArchiveMember))
  /-- Whether there is a file or directory. -/
  pathExists (path : String) : m Bool
  /-- The names in a directory, in an order of its own. A file holds none. -/
  namesIn (path : String) : m (Except String (List String))
  /-- Makes a directory and those it lies in. -/
  makeDirectories (path : String) : m (Except String Unit)
  /-- Writes a text to a file, which is made or replaced. A file that fails may hold a part of the
  text. -/
  writeText (path text : String) : m (Except String Unit)
  /-- Makes a temporary file in a directory, with an archive in it that has no entries yet. The
  result is its path. -/
  openTemporary (directory : String) : m (Except String String)
  /-- Adds an entry to the archive in a temporary file. An entry that fails may be in the archive
  all the same, with a part of its text. -/
  addEntry (temporary name text : String) : m (Except String Unit)
  /-- Deletes a temporary file. -/
  discardTemporary (temporary : String) : m Unit
  /-- Finishes the archive in a temporary file and moves it to its target. When that fails the
  temporary file is deleted. -/
  placeArchive (temporary target : String) : m (Except String Unit)

namespace Storage

variable {m : Type → Type} [Monad m]

/-- Runs an operation and names the error for the reason of a failure. -/
def attempt {α ε : Type} (operation : m (Except ε α)) (error : ε → Error) :
    ExceptT Error m α :=
  ExceptT.mk do return (← operation).mapError error

end Storage

end SchemaMigration
