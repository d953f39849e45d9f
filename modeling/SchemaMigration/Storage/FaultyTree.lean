import SchemaMigration.Storage.FileTree

/-!
# `SchemaMigration.Storage.FaultyTree`: storage that fails

A disk may be full or a directory locked, and the files do not show it. So a faulty tree
has a plan beside its files: the operations that change files take their turns from it,
and each that has a fault for its turn fails with the reason of that fault. A text that is
being written when the disk is full is there in part, in its file or in the archive that it
is an entry of. An archive that cannot be put in place is deleted, as any other that is
given up. All other faults leave the files as they are.

Deleting a temporary file has no turn, and neither have the operations that only read. When
the plan is used up nothing fails but what the files themselves stand in the way of.
-/

set_option autoImplicit false

namespace SchemaMigration

/-- How an operation fails. -/
structure Fault where
  reason : String
  /-- How many characters of a text are written before that. Without a number the file or the
  entry of the text is not begun. -/
  written? : Option Nat := none
  deriving DecidableEq, Repr

/-- The part of a text that is written before a fault. -/
def Fault.part? (fault : Fault) (text : String) : Option String :=
  fault.written?.map fun count => String.ofList (text.toList.take count)

/-- Files, and the faults of the operations to come. -/
structure FaultyTree where
  files : FileTree
  plan : List (Option Fault) := []
  deriving DecidableEq, Repr

namespace FaultyTree

/-- An operation on the files alone. -/
def untroubled {α : Type} (work : FileTree → α × FileTree) : StateM FaultyTree α :=
  modifyGet fun tree => ((work tree.files).1, { tree with files := (work tree.files).2 })

/-- The turn of an operation. `spoil` is what becomes of the files when it has a fault. -/
def turn {α : Type} (work : FileTree → Except String α × FileTree)
    (spoil : Fault → FileTree → FileTree) (tree : FaultyTree) : Except String α × FaultyTree :=
  match tree.plan.head?.join with
  | some fault => (.error fault.reason, ⟨spoil fault tree.files, tree.plan.tail⟩)
  | none => ((work tree.files).1, ⟨(work tree.files).2, tree.plan.tail⟩)

/-- An operation that takes a turn from the plan. -/
def inTurn {α : Type} (work : FileTree → Except String α × FileTree)
    (spoil : Fault → FileTree → FileTree) : StateM FaultyTree (Except String α) :=
  modifyGet (turn work spoil)

/-- A fault leaves the files as they are. -/
def keep (_ : Fault) (files : FileTree) : FileTree := files

/-- A fault leaves the part of a text that was written to a file. -/
def cutText (path text : String) (fault : Fault) (files : FileTree) : FileTree :=
  match fault.part? text with
  | some part => (files.writeText path part).2
  | none => files

/-- A fault leaves an entry with the part of its text that was written. -/
def cutEntry (temporary name text : String) (fault : Fault) (files : FileTree) : FileTree :=
  match fault.part? text with
  | some part => files.addMember temporary (.ofEntry name part)
  | none => files

instance : Storage (StateM FaultyTree) where
  readBytes path := untroubled fun files => (files.readBytes path, files)
  readArchive path := untroubled fun files => (files.readArchive path, files)
  pathExists path := untroubled fun files => (files.pathExists path, files)
  namesIn path := untroubled fun files => (files.namesIn path, files)
  makeDirectories path := inTurn (fun files => files.makeDirectories path) keep
  writeText path text := inTurn (fun files => files.writeText path text) (cutText path text)
  openTemporary directory := inTurn (fun files => files.openTemporary directory) keep
  addEntry temporary name text :=
    inTurn (fun files => files.addEntry temporary name text) (cutEntry temporary name text)
  discardTemporary temporary := untroubled fun files => ((), files.discardTemporary temporary)
  placeArchive temporary target :=
    inTurn (fun files => files.placeArchive temporary target)
      fun _ files => files.discardTemporary temporary

end FaultyTree

end SchemaMigration
