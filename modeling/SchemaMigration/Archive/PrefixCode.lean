/-!
# `SchemaMigration.Archive.PrefixCode`: codes of bits by their lengths

A prefix code gives symbols words of bits of which none begins another. The words
follow from their lengths: shorter words come first, words of one length are
numbers in a row, in the order of their symbols, and a word is read highest bit
first.
-/

set_option autoImplicit false

namespace SchemaMigration

/-- A prefix code. -/
structure PrefixCode where
  /-- The number of words of each length, from one bit on. -/
  counts : List Nat
  /-- The symbols in the order of their words. -/
  symbols : Array Nat
  deriving DecidableEq, Repr

namespace PrefixCode

/-- The longest word in bits. -/
def maxLength : Nat := 15

/-- The symbols whose words have a length. A symbol of length zero has no word. -/
def symbolsOfLength (lengths : List Nat) (length : Nat) : List Nat :=
  lengths.zipIdx.filterMap fun (l, symbol) => if l = length then some symbol else none

/-- How many more words of the last length there could be, from `room` words of the length
before the first. There is no such code when a length has too many words. -/
def roomLeft? (room : Nat) : List Nat → Option Nat
  | [] => some room
  | count :: counts =>
    if 2 * room < count then none else roomLeft? (2 * room - count) counts

/-- The code whose words have these lengths. It has to use up all words, but a code that may be
sparse can do with at most one symbol. -/
def ofLengths? (sparse : Bool) (lengths : List Nat) : Option PrefixCode :=
  let wordLengths := (List.range maxLength).map (· + 1)
  let counts := wordLengths.map fun length => lengths.count length
  let symbols := wordLengths.flatMap (symbolsOfLength lengths)
  match roomLeft? 1 counts with
  | none => none
  | some room =>
    if room = 0 ∨ (sparse ∧ symbols.length ≤ 1) then some ⟨counts, symbols.toArray⟩ else none

/-- Reads a word. Of the words one bit shorter, the next that is not taken is number `first`,
the number read is `word`, and `taken` words are shorter still. -/
def readWord (symbols : Array Nat) (word first taken : Nat) :
    List Nat → List Bool → Option (Nat × List Bool)
  | count :: counts, bit :: bits =>
    -- Both numbers get one bit longer. The words of this length follow from `first` on.
    let word := 2 * word + bit.toNat
    let first := 2 * first
    if word < first + count then
      symbols[taken + (word - first)]?.map fun symbol => (symbol, bits)
    else readWord symbols word (first + count) (taken + count) counts bits
  | _, _ => none

/-- Reads the symbol whose word comes next. -/
def read (code : PrefixCode) (bits : List Bool) : Option (Nat × List Bool) :=
  readWord code.symbols 0 0 0 code.counts bits

end PrefixCode

end SchemaMigration
