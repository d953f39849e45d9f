import SchemaMigration.Archive.Deflate
import SchemaMigration.Archive.Directory
import SchemaMigration.Keyed

/-!
# `SchemaMigration.Archive.Reading`: the entries of an archive

An archive tells its entries in its directory. Of lines with one name the last
counts, in the place of the first. A text is stored as it is or compressed, and
has to have the check sum that its line tells. What the header of an entry
repeats from the line is not looked at, only how long it is.
-/

set_option autoImplicit false

namespace SchemaMigration.Zip

/-- How the text of an entry is packed. -/
inductive Method where
  | stored
  | deflated
  deriving DecidableEq, Repr

/-- The method of a number. -/
def Method.ofNumber? : Nat → Option Method
  | 0 => some .stored
  | 8 => some .deflated
  | _ => none

/-- The bytes that were packed. -/
def Method.unpack? (method : Method) (packed : List UInt8) : Option (List UInt8) :=
  match method with
  | .stored => some packed
  | .deflated => Deflate.decode? packed

namespace DirectoryLine

/-- Whether the text of the entry is encrypted. -/
def isEncrypted (line : DirectoryLine) : Bool :=
  line.flags.testBit 0

/-- The packed bytes of the entry behind its header. They end with the file at the latest. -/
def packed? (line : DirectoryLine) (bytes : ByteArray) : Option (List UInt8) :=
  let header := line.headerOffset
  if hasMark bytes entryMark header && header + 30 ≤ bytes.size then
    let start := header + 30 + field bytes (header + 26) 2 + field bytes (header + 28) 2
    some (stretch bytes start line.packedSize)
  else none

/-- The text of the entry. -/
def text (line : DirectoryLine) (bytes : ByteArray) : Except EntryFault String :=
  if line.isEncrypted then
    .error (.unopened "unsupported Zip archive: Password required to decrypt file")
  else
    match line.packed? bytes, Method.ofNumber? line.method with
    -- The stored entry is looked for before its method, and both before it is unpacked.
    | none, _ => .error (.unopened "invalid Zip archive: Invalid local file header")
    | _, none => .error (.unopened "unsupported Zip archive: Compression method not supported")
    | some packed, some method =>
      match method.unpack? packed with
      | none => .error (.damaged "corrupt deflate stream")
      | some content =>
        if (Zip.checkSum content).toNat ≠ line.checkSum then .error (.damaged "Invalid checksum")
        else
          match Text.Utf8.decode content with
          | .ok text => .ok text
          | .error _ => .error (.damaged "stream did not contain valid UTF-8")

/-- The entry of a line. -/
def member (line : DirectoryLine) (bytes : ByteArray) : ArchiveMember where
  name := line.name
  size := line.size
  text := line.text bytes

end DirectoryLine

/-- The entries of an archive. -/
def members? (bytes : ByteArray) : Option (List ArchiveMember) := do
  let lines ← directory? bytes
  let named := Keyed.ofList (lines.map fun line => (line.name, line))
  return named.values.map (·.member bytes)

end SchemaMigration.Zip
