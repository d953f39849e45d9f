/-!
# `SchemaMigration.Archive.Bits`: bytes as a stream of bits

The bits of a byte come lowest first, and so do the bits of a number.
-/

set_option autoImplicit false

namespace SchemaMigration.Bits

/-- The bits of a byte, the lowest first. -/
def ofByte (byte : UInt8) : List Bool :=
  (List.range 8).map byte.toNat.testBit

/-- The bits of bytes. -/
def ofBytes (bytes : List UInt8) : List Bool :=
  bytes.flatMap ofByte

/-- The number in the next `width` bits, the lowest first. -/
def takeNumber : Nat → List Bool → Option (Nat × List Bool)
  | 0, bits => some (0, bits)
  | _ + 1, [] => none
  | width + 1, bit :: bits => do
    let (n, rest) ← takeNumber width bits
    return (2 * n + bit.toNat, rest)

/-- What follows the byte that is being read. A stream of whole bytes has as many bits left in
that byte as its length is over a multiple of eight. -/
def alignToByte (bits : List Bool) : List Bool :=
  bits.drop (bits.length % 8)

end SchemaMigration.Bits
