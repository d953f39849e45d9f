import SchemaMigration.Migration.Artifact
import SchemaMigration.Storage.Basic
import SchemaMigration.Storage.Path
import SchemaMigration.Text.Escaped

/-!
# `SchemaMigration.Archive.Writer`: one archive, written once

A writer collects entries with distinct names for an archive at its target. It is
opened by its first write, and the target is not touched before it is closed:
closing puts the whole archive in place. A writer that is dropped before that
leaves nothing behind.

The entries themselves are in the temporary file. A writer has the names of those that
it could write.
-/

set_option autoImplicit false

namespace SchemaMigration

/-- Where a writer stands. -/
inductive ArchiveWriter.State where
  /-- Nothing is on the disk. -/
  | idle
  /-- Entries go to a temporary file. -/
  | open (temporary : String)
  /-- The archive is in place, or could not be put there. -/
  | closed
  deriving DecidableEq, Repr

/-- A writer of one archive. -/
structure ArchiveWriter where
  target : String
  state : ArchiveWriter.State := .idle
  /-- The names of the entries written, in order. -/
  names : List String := []
  deriving DecidableEq, Repr

namespace ArchiveWriter

/-- A writer for an archive at a path. -/
def new (target : String) : ArchiveWriter := { target }

/-- Whether the writer is closed. -/
def isClosed (writer : ArchiveWriter) : Bool :=
  writer.state == .closed

/-- The name of the writer's state. -/
def stateName (writer : ArchiveWriter) : String :=
  match writer.state with
  | .idle => "idle"
  | .open _ => "open"
  | .closed => "closed"

/-- A description of the writer on one line. -/
def describe (writer : ArchiveWriter) : String :=
  let entries := String.intercalate ", " (writer.names.map Text.escaped)
  "ArchiveWriter \x7b target: " ++ Text.escaped writer.target ++ ", state: " ++
    Text.escaped writer.stateName ++ ", entries: [" ++ entries ++ "] \x7d"

variable {m : Type → Type} [Monad m] [Storage m]

/-- Starts the archive. The writer of an open archive stays as it is. -/
def openArchive (writer : ArchiveWriter) : ExceptT Error m ArchiveWriter :=
  match writer.state with
  | .open _ => return writer
  | .closed => throw (.archiveClosed writer.target)
  | .idle => do
    let directory := Path.parent writer.target
    Storage.attempt (Storage.makeDirectories directory) (.archiveStorage directory)
    -- The temporary file lies beside the target, so that moving it there is a rename.
    let temporary ← Storage.attempt (Storage.openTemporary directory)
      (.archiveStorage writer.target)
    return { writer with state := .open temporary }

/-- Adds an entry to the archive of an open writer. An entry that fails is none of the writer's. -/
def add (writer : ArchiveWriter) (name text : String) : m (Except Error Unit × ArchiveWriter) :=
  match writer.state with
  | .open temporary => do
    match ← Storage.addEntry temporary name text with
    | .ok () => return (.ok (), { writer with names := writer.names ++ [name] })
    | .error reason => return (.error (.archiveStorage writer.target reason), writer)
  | _ => return (.error (.internal "archive not open after open()"), writer)

/-- Adds an entry. Its name must be new. A writer that could be opened for it is open from then
on, also when the entry fails. -/
def write (writer : ArchiveWriter) (name text : String) : m (Except Error Unit × ArchiveWriter) :=
  if writer.isClosed then return (.error (.archiveClosed writer.target), writer)
  else if name ∈ writer.names then return (.error (.duplicateArtifact name .inArchive), writer)
  else do
    match ← (writer.openArchive (m := m)).run with
    | .error error => return (.error error, writer)
    | .ok opened => opened.add name text

/-- Adds a file that a run produced. -/
def accept (writer : ArchiveWriter) (artifact : Artifact) : m (Except Error Unit × ArchiveWriter) :=
  writer.write artifact.path artifact.content

/-- Puts the archive of an open writer at its target. The writer is closed from then on, also
when that fails. -/
def finish (writer : ArchiveWriter) : m (Except Error String × ArchiveWriter) :=
  match writer.state with
  | .open temporary => do
    let result ← Storage.placeArchive temporary writer.target
    let outcome := match result with
      | .ok () => .ok writer.target
      | .error reason => .error (.archiveStorage writer.target reason)
    return (outcome, { writer with state := .closed })
  | _ => return (.error (.internal "archive still idle on close"), writer)

/-- Finishes the archive. A writer that was never opened makes an empty archive, and one that
is closed stays as it is. -/
def close (writer : ArchiveWriter) : m (Except Error String × ArchiveWriter) :=
  match writer.state with
  | .closed => return (.ok writer.target, writer)
  | .open _ => writer.finish
  | .idle => do
    match ← (writer.openArchive (m := m)).run with
    | .error error => return (.error error, writer)
    | .ok opened => opened.finish

/-- Gives the writer up. An archive that is not in place is deleted. -/
def drop (writer : ArchiveWriter) : m Unit :=
  match writer.state with
  | .open temporary => Storage.discardTemporary temporary
  | _ => return

end ArchiveWriter

end SchemaMigration
