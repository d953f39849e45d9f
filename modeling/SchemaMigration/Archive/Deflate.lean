import SchemaMigration.Archive.Bits
import SchemaMigration.Archive.PrefixCode

/-!
# `SchemaMigration.Archive.Deflate`: compressed bytes

Compressed bytes are a stream of bits in blocks. A block is stored as it is, or
holds symbols of two prefix codes, which are the usual ones or are described in
front of it. A symbol is a byte, the end of the block, or the length of a copy of
bytes that stand some distance back. Before the first byte there are zeros to
copy. What follows the last block does not count.
-/

set_option autoImplicit false

namespace SchemaMigration.Deflate

open SchemaMigration.Bits

/-- A number that is told by a symbol and some bits behind it: the least one, and how many bits
there are. -/
structure Span where
  least : Nat
  width : Nat
  deriving DecidableEq, Repr

/-- The lengths of copies, from symbol 257 on. -/
def lengthSpans : Array Span := #[
  ⟨3, 0⟩, ⟨4, 0⟩, ⟨5, 0⟩, ⟨6, 0⟩, ⟨7, 0⟩, ⟨8, 0⟩, ⟨9, 0⟩, ⟨10, 0⟩, ⟨11, 1⟩, ⟨13, 1⟩, ⟨15, 1⟩,
  ⟨17, 1⟩, ⟨19, 2⟩, ⟨23, 2⟩, ⟨27, 2⟩, ⟨31, 2⟩, ⟨35, 3⟩, ⟨43, 3⟩, ⟨51, 3⟩, ⟨59, 3⟩, ⟨67, 4⟩,
  ⟨83, 4⟩, ⟨99, 4⟩, ⟨115, 4⟩, ⟨131, 5⟩, ⟨163, 5⟩, ⟨195, 5⟩, ⟨227, 5⟩, ⟨258, 0⟩]

/-- The distances of copies. -/
def distanceSpans : Array Span := #[
  ⟨1, 0⟩, ⟨2, 0⟩, ⟨3, 0⟩, ⟨4, 0⟩, ⟨5, 1⟩, ⟨7, 1⟩, ⟨9, 2⟩, ⟨13, 2⟩, ⟨17, 3⟩, ⟨25, 3⟩, ⟨33, 4⟩,
  ⟨49, 4⟩, ⟨65, 5⟩, ⟨97, 5⟩, ⟨129, 6⟩, ⟨193, 6⟩, ⟨257, 7⟩, ⟨385, 7⟩, ⟨513, 8⟩, ⟨769, 8⟩,
  ⟨1025, 9⟩, ⟨1537, 9⟩, ⟨2049, 10⟩, ⟨3073, 10⟩, ⟨4097, 11⟩, ⟨6145, 11⟩, ⟨8193, 12⟩,
  ⟨12289, 12⟩, ⟨16385, 13⟩, ⟨24577, 13⟩]

/-- The number behind a symbol. -/
def readSpan (spans : Array Span) (symbol : Nat) (bits : List Bool) :
    Option (Nat × List Bool) := do
  let span ← spans[symbol]?
  let (extra, bits) ← takeNumber span.width bits
  return (span.least + extra, bits)

/-! ### Codes -/

/-- The two codes of a block. -/
structure Codes where
  /-- Bytes, the end of the block, and lengths. -/
  symbols : PrefixCode
  distances : PrefixCode
  deriving DecidableEq, Repr

/-- The codes for lengths of words. -/
def Codes.ofLengths? (symbols distances : List Nat) : Option Codes := do
  return ⟨← PrefixCode.ofLengths? true symbols, ← PrefixCode.ofLengths? true distances⟩

/-- The usual codes. -/
def usualCodes? : Option Codes :=
  Codes.ofLengths?
    (List.replicate 144 8 ++ List.replicate 112 9 ++ List.replicate 24 7 ++ List.replicate 8 8)
    (List.replicate 32 5)

/-- The order in which the lengths of the words for lengths are told. -/
def lengthOrder : List Nat :=
  [16, 17, 18, 0, 8, 7, 9, 6, 10, 5, 11, 4, 12, 3, 13, 2, 14, 1, 15]

/-- The lengths of the words for lengths. Those that are not told are zero. -/
def readOrdered : Nat → List Nat → List Bool → Option (List (Nat × Nat) × List Bool)
  | 0, _, bits => some ([], bits)
  | _ + 1, [], bits => some ([], bits)
  | count + 1, symbol :: order, bits => do
    let (length, bits) ← takeNumber 3 bits
    let (rest, bits) ← readOrdered count order bits
    return ((symbol, length) :: rest, bits)

/-- Reads lengths until there are `total`. A symbol is a length, or repeats the last length or
zero. Every symbol takes a bit at least, so there are fewer than `fuel`. -/
def readLengths (code : PrefixCode) (total : Nat) :
    Nat → List Nat → List Bool → Option (List Nat × List Bool)
  | 0, _, _ => none
  | fuel + 1, lengths, bits =>
    -- A repetition must not run past the last length that is asked for.
    if total < lengths.length then none
    else if lengths.length = total then some (lengths, bits)
    else do
      let (symbol, bits) ← code.read bits
      match symbol with
      | 16 =>
        let last ← lengths.getLast?
        let (extra, bits) ← takeNumber 2 bits
        readLengths code total fuel (lengths ++ List.replicate (3 + extra) last) bits
      | 17 =>
        let (extra, bits) ← takeNumber 3 bits
        readLengths code total fuel (lengths ++ List.replicate (3 + extra) 0) bits
      | 18 =>
        let (extra, bits) ← takeNumber 7 bits
        readLengths code total fuel (lengths ++ List.replicate (11 + extra) 0) bits
      | length => readLengths code total fuel (lengths ++ [length]) bits

/-- Reads the description of two codes. -/
def readCodes (bits : List Bool) : Option (Codes × List Bool) := do
  let (symbolCount, bits) ← takeNumber 5 bits
  let (distanceCount, bits) ← takeNumber 5 bits
  let (orderedCount, bits) ← takeNumber 4 bits
  let symbolCount := symbolCount + 257
  let distanceCount := distanceCount + 1
  if 286 < symbolCount ∨ 30 < distanceCount then none
  else
    let (ordered, bits) ← readOrdered (orderedCount + 4) lengthOrder bits
    let code ← PrefixCode.ofLengths? false
      ((List.range 19).map fun symbol => (ordered.lookup symbol).getD 0)
    -- The lengths of both codes are one list, and a repetition may run from one into the other.
    let (lengths, bits) ←
      readLengths code (symbolCount + distanceCount) (bits.length + 1) [] bits
    let codes ← Codes.ofLengths? (lengths.take symbolCount) (lengths.drop symbolCount)
    return (codes, bits)

/-! ### Blocks -/

/-- Copies so many bytes from a distance back. -/
def copyBack (distance : Nat) : Nat → Array UInt8 → Array UInt8
  | 0, out => out
  | count + 1, out =>
    -- The copy may run into the bytes that it has written itself.
    let byte := if distance ≤ out.size then out.getD (out.size - distance) 0 else 0
    copyBack distance count (out.push byte)

/-- Reads the symbols of a block up to its end. Every symbol takes a bit at least, so there are
fewer than `fuel`. -/
def readSymbols (codes : Codes) :
    Nat → Array UInt8 → List Bool → Option (Array UInt8 × List Bool)
  | 0, _, _ => none
  | fuel + 1, out, bits => do
    let (symbol, bits) ← codes.symbols.read bits
    -- The symbols below 256 are bytes, 256 is the end, and those above it are lengths of copies.
    if symbol < 256 then readSymbols codes fuel (out.push (UInt8.ofNat symbol)) bits
    else if symbol = 256 then return (out, bits)
    else
      let (length, bits) ← readSpan lengthSpans (symbol - 257) bits
      let (symbol, bits) ← codes.distances.read bits
      let (distance, bits) ← readSpan distanceSpans symbol bits
      readSymbols codes fuel (copyBack distance length out) bits

/-- Reads so many bytes as they are. -/
def readBytes : Nat → Array UInt8 → List Bool → Option (Array UInt8 × List Bool)
  | 0, out, bits => some (out, bits)
  | count + 1, out, bits => do
    let (byte, bits) ← takeNumber 8 bits
    readBytes count (out.push (UInt8.ofNat byte)) bits

/-- Reads a stored block: its length, the complement of its length, and its bytes. -/
def readStored (out : Array UInt8) (bits : List Bool) : Option (Array UInt8 × List Bool) := do
  let (length, bits) ← takeNumber 16 (alignToByte bits)
  let (complement, bits) ← takeNumber 16 bits
  if length + complement = 0xFFFF then readBytes length out bits else none

/-- Reads a block behind the mark of its kind. -/
def readBlock (kind : Nat) (out : Array UInt8) (bits : List Bool) :
    Option (Array UInt8 × List Bool) :=
  match kind with
  | 0 => readStored out bits
  | 1 => do readSymbols (← usualCodes?) (bits.length + 1) out bits
  | 2 => do
    let (codes, bits) ← readCodes bits
    readSymbols codes (bits.length + 1) out bits
  | _ => none

/-- Reads blocks up to the last. Every block takes three bits at least, so there are fewer than
`fuel`. -/
def readBlocks : Nat → Array UInt8 → List Bool → Option (Array UInt8)
  | 0, _, _ => none
  | fuel + 1, out, bits => do
    let (last, bits) ← takeNumber 1 bits
    let (kind, bits) ← takeNumber 2 bits
    let (out, bits) ← readBlock kind out bits
    if last = 1 then return out else readBlocks fuel out bits

/-- The bytes that were compressed. Without any blocks there are none. -/
def decode? (bytes : List UInt8) : Option (List UInt8) :=
  if bytes.isEmpty then some []
  else
    let bits := ofBytes bytes
    (readBlocks (bits.length + 1) #[] bits).map Array.toList

end SchemaMigration.Deflate
