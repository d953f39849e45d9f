import SchemaMigration.Archive.Reading
import SchemaMigration.Storage.Basic
import SchemaMigration.Storage.Path
import SchemaMigration.Text.Digits

/-!
# `SchemaMigration.Storage.FileTree`: storage as a value

The files of a machine, as a list of places with what stands there. A place is the
list of names that lead to it from the root, which is the empty list. A path that
starts with a slash is walked from the root, and any other from the working
directory. It is walked name by name, so every directory on it has to exist, even
one that a later `..` leaves again. Up from the root leads to the root.

The working directory and the directories that it lies in always stand. A directory
lists its names in the order in which the tree has them. An operation fails only for what
stands in its way, and no file is cut off by that.
-/

set_option autoImplicit false

namespace SchemaMigration

/-- What stands at a place. -/
inductive FileTree.Entry where
  | directory
  | text (text : String)
  | archive (members : List ArchiveMember)
  /-- A temporary file that an archive is being written to. -/
  | unfinished (members : List ArchiveMember)
  deriving DecidableEq, Repr

/-- The files of a machine, and the working directory. -/
structure FileTree where
  entries : List (List String × FileTree.Entry) := []
  workingDirectory : List String := []
  deriving DecidableEq, Repr

namespace FileTree

/-- A machine without files, at its root. -/
def empty : FileTree := {}

/-- What stands at a place. -/
def get? (tree : FileTree) (place : List String) : Option Entry :=
  if place <+: tree.workingDirectory then some .directory else tree.entries.lookup place

/-- Puts something at a place. -/
def put (tree : FileTree) (place : List String) (entry : Entry) : FileTree :=
  { tree with entries := tree.entries.filter (fun e => e.1 != place) ++ [(place, entry)] }

/-- Removes what stands at a place. -/
def remove (tree : FileTree) (place : List String) : FileTree :=
  { tree with entries := tree.entries.filter fun e => e.1 != place }

/-- The places where something stands: the directories down to the working directory, and the
entries. -/
def places (tree : FileTree) : List (List String) :=
  (List.range tree.workingDirectory.length).map (fun n => tree.workingDirectory.take (n + 1)) ++
    tree.entries.map Prod.fst

/-- The longest name in bytes. -/
def maxNameSize : Nat := 255

/-- The longest path in bytes. -/
def maxPathSize : Nat := 4095

/-- Why a path leads nowhere. -/
def notFound : String := "No such file or directory"

/-- Why a path through a file leads nowhere. -/
def notDirectory : String := "Not a directory"

/-- Why a directory is no file. -/
def isDirectory : String := "Is a directory"

/-- Why a directory cannot be made where something stands. -/
def alreadyThere : String := "File exists"

/-- Why a name or a path is refused. -/
def nameTooLong : String := "File name too long"

/-- Why an entry is refused whose name an archive has. -/
def duplicateName : String := "invalid Zip archive: Duplicate filename"

/-- Why a file is no archive. -/
def notArchive : String := "invalid Zip archive"

/-- Why a path is refused. -/
def badPath : String := "file name contained an unexpected NUL byte"

/-- The place of a name in a directory, whatever stands there. -/
def inside (place : List String) (name : String) : Except String (List String) :=
  if name = "." then .ok place
  else if name = ".." then .ok place.dropLast
  else if maxNameSize < name.utf8ByteSize then .error nameTooLong
  else .ok (place ++ [name])

/-- Walks from a directory along names, which all have to lead to directories. -/
def enter (tree : FileTree) (place : List String) : List String → Except String (List String)
  | [] => .ok place
  | name :: rest => do
    let next ← inside place name
    match tree.get? next with
    | some .directory => enter tree next rest
    | some _ => .error notDirectory
    | none => .error notFound

/-- The directory that a path starts in. -/
def origin (tree : FileTree) (path : String) : List String :=
  if Path.isAbsolute path then [] else tree.workingDirectory

/-- The directory that a path leads through, and the last name on the path. Without names a path
leads to the directory that it starts in, by the name `.`. -/
def approach (tree : FileTree) (path : String) : Except String (List String × String) := do
  if path.toList.contains '\x00' then throw badPath
  if maxPathSize < path.utf8ByteSize then throw nameTooLong
  if path = "" then throw notFound
  let names := Path.parts path
  return (← tree.enter (tree.origin path) names.dropLast, names.getLast?.getD ".")

/-- The place of a path and what stands there. A path that ends with a slash, `.` or `..` has
to lead to a directory. -/
def locate (tree : FileTree) (path : String) : Except String (List String × Option Entry) := do
  let (directory, name) ← tree.approach path
  let place ← inside directory name
  let entry := tree.get? place
  -- Such a path asks for a directory, whatever stands there.
  if Path.hasTrailingSlash path || name = "." || name = ".." then
    match entry with
    | some .directory => return (place, entry)
    | some _ => throw notDirectory
    | none => throw notFound
  else return (place, entry)

/-- The place of a file that can be written. -/
def writable (tree : FileTree) (path : String) : Except String (List String) := do
  match ← tree.locate path with
  | (_, some .directory) => throw isDirectory
  | (place, _) => return place

/-- The start of an archive file. -/
def archiveMark : List UInt8 := [0x50, 0x4B]

/-- The first bytes of an archive with this first entry. They end with the check sum of its text,
where the text is known. -/
def headBytes (member : ArchiveMember) : List UInt8 :=
  match member.text with
  | .error _ => archiveMark
  | .ok text =>
    archiveMark ++ [3, 4, 20, 0, 0, 0, 8, 0, 0, 0, 0x21, 0] ++
      Zip.bytesOf 4 (Zip.checkSum text.toUTF8.toList).toNat

/-- The bytes of what stands at a place. An archive without entries is its end record. Of
other archives and of temporary files only the start is told, and a byte that is no text. -/
def Entry.bytes? : Entry → Option (List UInt8)
  | .directory => none
  | .text s => some s.toUTF8.toList
  | .archive [] => some (Zip.endRecord 0 0 0)
  | .archive (member :: _) => some (headBytes member ++ [0xFF])
  | .unfinished _ => some (archiveMark ++ [0xFF])

/-- Reads a file. -/
def readBytes (tree : FileTree) (path : String) : Except String (List UInt8) := do
  match ← tree.locate path with
  | (_, none) => throw notFound
  | (_, some entry) =>
    match entry.bytes? with
    | some bytes => return bytes
    | none => throw isDirectory

/-- Reads an archive. -/
def readArchive (tree : FileTree) (path : String) :
    Except ArchiveFault (List ArchiveMember) :=
  match tree.locate path with
  | .error reason => .error (.unreadable reason)
  | .ok (_, none) => .error (.unreadable notFound)
  | .ok (_, some (.archive members)) => .ok members
  | .ok (_, some (.text text)) =>
    match Zip.members? text.toUTF8 with
    | some members => .ok members
    | none => .error (.notAnArchive notArchive)
  | .ok (_, some _) => .error (.notAnArchive notArchive)

/-- Whether a path leads to anything. -/
def pathExists (tree : FileTree) (path : String) : Bool :=
  match tree.locate path with
  | .ok (_, some _) => true
  | _ => false

/-- The names that stand directly inside a place. -/
def childNames (tree : FileTree) (place : List String) : List String :=
  tree.places.filterMap fun p => if p.dropLast = place then p.getLast? else none

/-- The names in a directory. -/
def namesIn (tree : FileTree) (path : String) : Except String (List String) := do
  match ← tree.locate path with
  | (_, none) => throw notFound
  | (place, some .directory) => return tree.childNames place
  | (_, some _) => return []

/-- Whether a path leads to a directory. -/
def hasDirectory (tree : FileTree) (path : String) : Bool :=
  match tree.locate path with
  | .ok (_, some .directory) => true
  | _ => false

/-- Makes one directory, inside one that is there. -/
def makeDirectory (tree : FileTree) (path : String) : Except String FileTree := do
  let (directory, name) ← tree.approach path
  if name = "." || name = ".." then throw alreadyThere
  let place ← inside directory name
  if (tree.get? place).isSome then throw alreadyThere
  return tree.put place .directory

/-- Makes one directory unless it is there. -/
def keepDirectory (tree : FileTree) (path : String) : Except String Unit × FileTree :=
  match tree.makeDirectory path with
  | .ok made => (.ok (), made)
  | .error reason =>
    if reason = alreadyThere && tree.hasDirectory path then (.ok (), tree)
    else (.error reason, tree)

/-- Makes the first of some directories, each of which lies in the next, and of the others
those that it needs. Those made before a failure stay. -/
def makeInnermost (tree : FileTree) : List String → Except String Unit × FileTree
  | [] => (.ok (), tree)
  | path :: above =>
    match tree.keepDirectory path with
    | (.ok (), made) => (.ok (), made)
    | (.error reason, _) =>
      -- Only a missing directory above is worth another try.
      if reason = notFound then
        match tree.makeInnermost above with
        | (.ok (), made) => made.keepDirectory path
        | (.error reason, made) => (.error reason, made)
      else (.error reason, tree)

/-- Makes a directory and those it lies in. -/
def makeDirectories (tree : FileTree) (path : String) : Except String Unit × FileTree :=
  if path = "" then (.ok (), tree) else tree.makeInnermost (path :: Path.above path)

/-- Writes a text to a file. -/
def writeText (tree : FileTree) (path text : String) : Except String Unit × FileTree :=
  match tree.writable path with
  | .ok place => (.ok (), tree.put place (.text text))
  | .error reason => (.error reason, tree)

/-- How the names of temporary files start. -/
def temporaryStem : String := ".tmp"

/-- Whether something in the tree has a name. -/
def hasName (tree : FileTree) (name : String) : Bool :=
  tree.places.any fun p => p.getLast? == some name

/-- A name for a temporary file that nothing has. Of the numbers up to the number of places one
is free. -/
def temporaryName (tree : FileTree) : String :=
  let numbered (k : Nat) : String := temporaryStem ++ Text.padded 6 k
  let free := (List.range (tree.places.length + 1)).find? fun k => !tree.hasName (numbered k)
  numbered (free.getD tree.places.length)

/-- Makes a temporary file in a directory, with an archive without entries. -/
def openTemporary (tree : FileTree) (directory : String) : Except String String × FileTree :=
  let path := Path.join directory tree.temporaryName
  match tree.writable path with
  | .ok place => (.ok path, tree.put place (.unfinished []))
  | .error reason => (.error reason, tree)

/-- The place of a temporary file, and the members of the archive in it. -/
def packed? (tree : FileTree) (temporary : String) :
    Option (List String × List ArchiveMember) :=
  match tree.locate temporary with
  | .ok (place, some (.unfinished members)) => some (place, members)
  | _ => none

/-- Puts a member behind those of the archive in a temporary file. -/
def addMember (tree : FileTree) (temporary : String) (member : ArchiveMember) : FileTree :=
  match tree.packed? temporary with
  | some (place, members) => tree.put place (.unfinished (members ++ [member]))
  | none => tree

/-- Adds an entry to the archive in a temporary file. Its name must be new there. -/
def addEntry (tree : FileTree) (temporary name text : String) :
    Except String Unit × FileTree :=
  match tree.packed? temporary with
  | some (_, members) =>
    if members.any fun member => member.name == name then (.error duplicateName, tree)
    else (.ok (), tree.addMember temporary (.ofEntry name text))
  | none => (.error notFound, tree)

/-- Deletes a temporary file. -/
def discardTemporary (tree : FileTree) (temporary : String) : FileTree :=
  match tree.writable temporary with
  | .ok place => tree.remove place
  | .error _ => tree

/-- Moves the archive in a temporary file to its target. -/
def placeArchive (tree : FileTree) (temporary target : String) : Except String Unit × FileTree :=
  let rest := tree.discardTemporary temporary
  match tree.packed? temporary with
  | none => (.error notFound, rest)
  | some (_, members) =>
    match rest.writable target with
    | .ok place => (.ok (), rest.put place (.archive members))
    | .error reason => (.error reason, rest)

/-- Storage in a file tree that is threaded through. -/
instance : Storage (StateM FileTree) where
  readBytes path := return (← get).readBytes path
  readArchive path := return (← get).readArchive path
  pathExists path := return (← get).pathExists path
  namesIn path := return (← get).namesIn path
  makeDirectories path := modifyGet fun tree => tree.makeDirectories path
  writeText path text := modifyGet fun tree => tree.writeText path text
  openTemporary directory := modifyGet fun tree => tree.openTemporary directory
  addEntry temporary name text := modifyGet fun tree => tree.addEntry temporary name text
  discardTemporary temporary := modify fun tree => tree.discardTemporary temporary
  placeArchive temporary target := modifyGet fun tree => tree.placeArchive temporary target

end FileTree

end SchemaMigration
