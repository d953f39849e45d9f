import SchemaMigration.Storage.Basic

/-!
# `SchemaMigration.Archive.Zip`: archives as bytes

An archive is written without compression: for each entry a header and its text,
then a directory with a line for each entry, and a record of where the directory
stands. Numbers are written lowest byte first.
-/

set_option autoImplicit false

namespace SchemaMigration.Zip

/-- The low bytes of a number, the lowest first. -/
def bytesOf : Nat → Nat → List UInt8
  | 0, _ => []
  | width + 1, n => UInt8.ofNat n :: bytesOf width (n / 256)

/-- The number of bytes, the lowest first. -/
def valueOf : List UInt8 → Nat
  | [] => 0
  | b :: rest => b.toNat + 256 * valueOf rest

/-- One step of a check sum for each bit of a byte. -/
def checkBits : Nat → UInt32 → UInt32
  | 0, sum => sum
  | bits + 1, sum =>
    checkBits bits (if sum &&& 1 = 1 then (sum >>> 1) ^^^ 0xEDB88320 else sum >>> 1)

/-- The check sum of bytes, with the reversed polynomial `0xEDB88320`. -/
def checkSum (bytes : List UInt8) : UInt32 :=
  ~~~ bytes.foldl (fun sum b => checkBits 8 (sum ^^^ b.toUInt32)) 0xFFFFFFFF

/-- The first of January 1980, the earliest date that an entry can have. -/
def entryDate : Nat := 0x21

/-- The mark of a text whose name is UTF-8. -/
def utf8Flag : Nat := 0x800

/-- The fields that the header of an entry and its line in the directory share. -/
def sharedFields (name content : List UInt8) : List UInt8 :=
  bytesOf 2 20 ++ bytesOf 2 utf8Flag ++ bytesOf 2 0 ++ bytesOf 2 0 ++ bytesOf 2 entryDate ++
    bytesOf 4 (checkSum content).toNat ++ bytesOf 4 content.length ++
    bytesOf 4 content.length ++ bytesOf 2 name.length

/-- An entry: its header, its name and its text. -/
def entryBytes (name content : List UInt8) : List UInt8 :=
  bytesOf 4 0x04034B50 ++ sharedFields name content ++ bytesOf 2 0 ++ name ++ content

/-- The line of an entry in the directory. -/
def directoryLine (offset : Nat) (name content : List UInt8) : List UInt8 :=
  bytesOf 4 0x02014B50 ++ bytesOf 2 20 ++ sharedFields name content ++ bytesOf 2 0 ++
    bytesOf 2 0 ++ bytesOf 2 0 ++ bytesOf 2 0 ++ bytesOf 4 0 ++ bytesOf 4 offset ++ name

/-- The record of where the directory stands. -/
def endRecord (count size offset : Nat) : List UInt8 :=
  bytesOf 4 0x06054B50 ++ bytesOf 2 0 ++ bytesOf 2 0 ++ bytesOf 2 count ++ bytesOf 2 count ++
    bytesOf 4 size ++ bytesOf 4 offset ++ bytesOf 2 0

/-- The entries and the directory of an archive, from an offset on. -/
def sections (offset : Nat) : ArchiveEntries → List UInt8 × List UInt8
  | [] => ([], [])
  | (name, text) :: rest =>
    let name := name.toUTF8.toList
    let content := text.toUTF8.toList
    let entry := entryBytes name content
    let (entries, directory) := sections (offset + entry.length) rest
    (entry ++ entries, directoryLine offset name content ++ directory)

/-- The bytes of an archive. -/
def encode (entries : ArchiveEntries) : List UInt8 :=
  let (body, directory) := sections 0 entries
  body ++ directory ++ endRecord entries.length directory.length body.length

end SchemaMigration.Zip
