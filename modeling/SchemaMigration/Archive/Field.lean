import SchemaMigration.Archive.Zip

/-!
# `SchemaMigration.Archive.Field`: fields of a file by their offsets

Numbers, marks and stretches of bytes that stand at an offset of a file. Nothing
stands behind the end of the file.
-/

set_option autoImplicit false

namespace SchemaMigration.Zip

/-- The bytes from an offset on, `length` of them or as many as there are. -/
def stretch (bytes : ByteArray) (offset length : Nat) : List UInt8 :=
  (bytes.extract offset (min (offset + length) bytes.size)).toList

/-- The number of `width` bytes at an offset. -/
def field (bytes : ByteArray) (offset width : Nat) : Nat :=
  valueOf (stretch bytes offset width)

/-- The first byte of every mark. -/
def markStart : UInt8 := 0x50

/-- Whether a mark stands at an offset. Most offsets fail at its first byte. -/
def hasMark (bytes : ByteArray) (mark offset : Nat) : Bool :=
  bytes[offset]? == some markStart && field bytes offset 4 == mark

/-- The first of `count` offsets, from `offset` on, where a mark stands. -/
def findMark (bytes : ByteArray) (mark : Nat) : (count offset : Nat) → Option Nat
  | 0, _ => none
  | count + 1, offset =>
    if hasMark bytes mark offset then some offset else findMark bytes mark count (offset + 1)

end SchemaMigration.Zip
