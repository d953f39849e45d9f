import SchemaMigration.Archive.ExtraFields
import SchemaMigration.Archive.Field

/-!
# `SchemaMigration.Archive.Directory`: finding the directory of an archive

An archive is read from its end. The last end record whose directory can be read
counts, whatever stands behind it. Offsets are told as if the archive began the
file. When there are other bytes before it, the first line behind the place where
the directory is said to start shows by how much everything is shifted.
-/

set_option autoImplicit false

namespace SchemaMigration.Zip

/-- The mark of an entry's header. -/
def entryMark : Nat := 0x04034B50

/-- The mark of a line of the directory. -/
def lineMark : Nat := 0x02014B50

/-- The mark of an end record. -/
def endMark : Nat := 0x06054B50

/-- A record at the end of an archive. -/
structure EndRecord where
  /-- Where the record stands. -/
  offset : Nat
  /-- The number of the disk that the record is on. -/
  disk : Nat
  /-- The number of the disk where the directory starts. -/
  directoryDisk : Nat
  /-- The lines of the directory on this disk. -/
  lineCount : Nat
  /-- The lines of the directory on all disks. -/
  totalCount : Nat
  /-- Where the directory is said to start. -/
  directoryOffset : Nat
  deriving DecidableEq, Repr

namespace EndRecord

/-- The record at an offset. The file holds all of it and its comment. -/
def read? (bytes : ByteArray) (offset : Nat) : Option EndRecord :=
  if hasMark bytes endMark offset && offset + 22 + field bytes (offset + 20) 2 ≤ bytes.size then
    some {
      offset
      disk := field bytes (offset + 4) 2
      directoryDisk := field bytes (offset + 6) 2
      lineCount := field bytes (offset + 8) 2
      totalCount := field bytes (offset + 10) 2
      directoryOffset := field bytes (offset + 16) 4 }
  else none

/-- By how much an archive is shifted. An archive without entries ends where its directory is
said to start. In others the first line stands between that place and the record. -/
def shift? (bytes : ByteArray) (record : EndRecord) : Option Nat :=
  if record.totalCount = 0 then some (record.offset - record.directoryOffset)
  else
    let offsets := record.offset - (record.directoryOffset + 3)
    (findMark bytes lineMark offsets record.directoryOffset).map (· - record.directoryOffset)

end EndRecord

/-! ### Lines -/

/-- The method of entries whose text is encrypted and packed by another. -/
def encryptedMethod : Nat := 99

/-- The line at an offset, and where the next one starts. The file holds all of it. -/
def DirectoryLine.read? (bytes : ByteArray) (offset : Nat) : Option (DirectoryLine × Nat) := do
  -- Behind 46 bytes of fixed length stand the name, the extra fields and the comment.
  let nameEnd := offset + 46 + field bytes (offset + 28) 2
  let extrasEnd := nameEnd + field bytes (offset + 30) 2
  let next := extrasEnd + field bytes (offset + 32) 2
  if !hasMark bytes lineMark offset || bytes.size < next then none
  else
    let flags := field bytes (offset + 8) 2
    let method := field bytes (offset + 10) 2
    let rawName := stretch bytes (offset + 46) (nameEnd - (offset + 46))
    let line : DirectoryLine := {
      rawName
      name := nameText flags rawName
      comment := nameText flags (stretch bytes extrasEnd (next - extrasEnd))
      flags
      method
      checkSum := field bytes (offset + 16) 4
      packedSize := field bytes (offset + 20) 4
      size := field bytes (offset + 24) 4
      headerOffset := field bytes (offset + 42) 4 }
    if method = encryptedMethod then none
    else return (← line.withExtras? (stretch bytes nameEnd (extrasEnd - nameEnd)), next)

/-- Reads so many lines of a directory. All entries start before the directory. -/
def readLines (bytes : ByteArray) (shift directoryStart : Nat) :
    (count offset : Nat) → Option (List DirectoryLine)
  | 0, _ => some []
  | count + 1, offset => do
    let (line, next) ← DirectoryLine.read? bytes offset
    let headerOffset := line.headerOffset + shift
    -- The entries of an archive stand in front of its directory.
    if directoryStart ≤ headerOffset then none
    else
      let rest ← readLines bytes shift directoryStart count next
      return { line with headerOffset } :: rest

/-- The lines of a directory with an end record. It is not spread over disks. -/
def EndRecord.lines? (bytes : ByteArray) (record : EndRecord) : Option (List DirectoryLine) := do
  let shift ← record.shift? bytes
  let start := record.directoryOffset + shift
  if record.disk ≠ record.directoryDisk then none
  else readLines bytes shift start record.lineCount start

/-- The directory of the last archive whose end record starts before an offset. -/
def lastDirectory? (bytes : ByteArray) : Nat → Option (List DirectoryLine)
  | 0 => none
  | offset + 1 =>
    match (EndRecord.read? bytes offset).bind (·.lines? bytes) with
    | some lines => some lines
    | none => lastDirectory? bytes offset

/-- The directory of an archive. -/
def directory? (bytes : ByteArray) : Option (List DirectoryLine) :=
  lastDirectory? bytes bytes.size

end SchemaMigration.Zip
