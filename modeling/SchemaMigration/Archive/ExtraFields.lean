import SchemaMigration.Archive.Zip
import SchemaMigration.Text.CodePage437
import SchemaMigration.Text.Utf8

/-!
# `SchemaMigration.Archive.ExtraFields`: what a directory tells of an entry

A line of the directory tells the name of an entry, where it stands and how it is
packed. Behind its numbers there are extra fields, each with a number for its
kind and its length. They can replace the name and the comment by Unicode texts
and hold the sizes that need more than four bytes. Fields of other kinds are
passed over. A wrong field makes the line wrong, but fields that are cut off at
the end of the line only end there, and count as far as they go.
-/

set_option autoImplicit false

namespace SchemaMigration.Zip

/-- A line of the directory. -/
structure DirectoryLine where
  /-- The name as it is written. -/
  rawName : List UInt8
  name : String
  comment : String
  flags : Nat
  method : Nat
  checkSum : Nat
  /-- The bytes that the text takes up. -/
  packedSize : Nat
  /-- The bytes of the text. -/
  size : Nat
  /-- Where the header of the entry stands. -/
  headerOffset : Nat
  deriving DecidableEq, Repr

/-- The text of a name or a comment under the flags of a line. -/
def nameText (flags : Nat) (bytes : List UInt8) : String :=
  if flags &&& utf8Flag ≠ 0 then Text.Utf8.decodeLossy bytes else Text.CodePage437.decode bytes

namespace ExtraFields

/-- Why no more fields are read. -/
inductive Fault where
  /-- The bytes end inside a field. -/
  | cutOff
  /-- A field is not as it has to be. -/
  | wrong
  deriving DecidableEq, Repr

/-- Reads from the bytes of extra fields and changes the line that they belong to. Changes stay
when the reading ends with a fault. -/
abbrev Reader := ExceptT Fault (StateM (DirectoryLine × List UInt8))

/-- The line as it is so far. -/
def line : Reader DirectoryLine := return (← get).1

/-- Changes the line. -/
def change (f : DirectoryLine → DirectoryLine) : Reader Unit :=
  modify fun (line, bytes) => (f line, bytes)

/-- Takes so many bytes. -/
def take (count : Nat) : Reader (List UInt8) := do
  let (line, bytes) ← get
  if bytes.length < count then throw .cutOff
  set (line, bytes.drop count)
  return bytes.take count

/-- Passes over so many bytes. -/
def skip (count : Nat) : Reader Unit := do
  let _ ← take count

/-- Takes a number of `width` bytes. -/
def number (width : Nat) : Reader Nat := return valueOf (← take width)

/-- Requires something of a field. -/
def require (holds : Bool) : Reader Unit := do
  if !holds then throw .wrong

/-- The number that stands for one that needs more than four bytes. -/
def overflow : Nat := 0xFFFFFFFF

/-- The bytes of the numbers that a field for large archives has room for. -/
def wideLength : Nat := 24

/-- The sizes and the offset, in eight bytes each, as far as they need more than four. A field
with room for all three has all three. -/
def wideNumbers (length : Nat) : Reader Unit := do
  let told ← line
  let isWide (n : Nat) : Bool := wideLength ≤ length || n == overflow
  if isWide told.size then
    let size ← number 8
    change ({ · with size })
  if isWide told.packedSize then
    let packedSize ← number 8
    change ({ · with packedSize })
  if isWide told.headerOffset then
    let headerOffset ← number 8
    change ({ · with headerOffset })
  -- Numbers of a short field may have been taken from behind it, so this comes last.
  let taken := 8 * [told.size, told.packedSize, told.headerOffset].countP isWide
  require (taken ≤ length)
  skip (length - taken)

/-- Three times of eight bytes each. -/
def fileTimes (length : Nat) : Reader Unit := do
  require (length == 32)
  -- Four bytes are kept free. The times are attribute 1, the only one, of 24 bytes.
  skip 4
  require ((← number 2) == 1)
  require ((← number 2) == 24)
  skip 24

/-- Up to three times of four bytes each, which flags tell. The directory may have only the
first, whatever the flags. -/
def unixTimes (length : Nat) : Reader Unit := do
  let flags ← number 1
  let told := (List.range 8).countP flags.testBit
  require (length == 5 || length == 1 + 4 * told)
  require (flags < 8)
  skip (length - 1)

/-- A Unicode text in place of other bytes, whose check sum it carries. -/
def unicodeText (length : Nat) (replaced : List UInt8) : Reader (List UInt8 × String) := do
  skip 1
  let sum ← number 4
  require (5 ≤ length)
  let bytes ← take (length - 5)
  require (sum == (checkSum replaced).toNat)
  match Text.Utf8.decode bytes with
  | .ok text => return (bytes, text)
  | .error _ => throw .wrong

/-- A field of a kind. -/
def field (kind length : Nat) : Reader Unit := do
  match kind with
  | 0x0001 => wideNumbers length
  | 0x000A => fileTimes length
  | 0x5455 => unixTimes length
  | 0x6375 =>
    let (_, comment) ← unicodeText length (← line).comment.toUTF8.toList
    change ({ · with comment })
  | 0x7075 =>
    let (rawName, name) ← unicodeText length (← line).rawName
    change ({ · with rawName, name })
  | _ => skip length

/-- Reads fields to the end of the bytes. Every field takes four bytes at least, so there are
fewer than `fuel`. -/
def fields : Nat → Reader Unit
  | 0 => return
  | fuel + 1 => do
    if (← get).2.isEmpty then return
    let kind ← number 2
    let length ← number 2
    field kind length
    fields fuel

end ExtraFields

/-- A line with what its extra fields tell. -/
def DirectoryLine.withExtras? (line : DirectoryLine) (bytes : List UInt8) :
    Option DirectoryLine :=
  match (ExtraFields.fields (bytes.length + 1)).run.run (line, bytes) with
  | (.error .wrong, _) => none
  | (_, line, _) => some line

end SchemaMigration.Zip
