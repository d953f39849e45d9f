/-!
# `SchemaMigration.Text.Utf8`: texts from bytes

Decodes UTF-8 by the table of well-formed byte sequences, and says where and how
a byte string leaves it: `index` counts the bytes before the first ill-formed
sequence, `length` the bytes of the longest part of it that could begin a
character, or `none` when the bytes end in the middle of one. A lossy reading puts
a replacement character in place of every such sequence.
-/

set_option autoImplicit false

namespace SchemaMigration.Text.Utf8

/-- The first place where bytes are not well-formed UTF-8. -/
structure Fault where
  /-- Bytes before the fault. -/
  index : Nat
  /-- Bytes of the ill-formed sequence, `none` when the input ends inside a sequence. -/
  length : Option Nat
  deriving DecidableEq, Repr

/-- The text of a fault. -/
def Fault.message (fault : Fault) : String :=
  match fault.length with
  | some n => s!"invalid utf-8 sequence of {n} bytes from index {fault.index}"
  | none => s!"incomplete utf-8 byte sequence from index {fault.index}"

/-- Whether a byte can follow the first one of a sequence. -/
def isContinuation (b : UInt8) : Bool :=
  0x80 ≤ b && b ≤ 0xBF

/-- Whether `b` can stand second in a sequence of three bytes that starts with `lead`. The
bounds leave out overlong forms and surrogates. -/
def isSecondOfThree (lead b : UInt8) : Bool :=
  if lead = 0xE0 then 0xA0 ≤ b && b ≤ 0xBF
  else if lead = 0xED then 0x80 ≤ b && b ≤ 0x9F
  else isContinuation b

/-- Whether `b` can stand second in a sequence of four bytes that starts with `lead`. The
bounds leave out overlong forms and values past the last character. -/
def isSecondOfFour (lead b : UInt8) : Bool :=
  if lead = 0xF0 then 0x90 ≤ b && b ≤ 0xBF
  else if lead = 0xF4 then 0x80 ≤ b && b ≤ 0x8F
  else isContinuation b

/-- The low six bits, which a continuation byte carries. -/
def payload (b : UInt8) : Nat :=
  b.toNat % 64

/-- Decodes bytes that stand `index` bytes into the input. -/
def decodeFrom (index : Nat) : List UInt8 → Except Fault (List Char)
  | [] => .ok []
  | a :: rest =>
    if a < 0x80 then do
      return Char.ofNat a.toNat :: (← decodeFrom (index + 1) rest)
    -- `0xC0` and `0xC1` would only spell what one byte spells.
    else if 0xC2 ≤ a ∧ a ≤ 0xDF then
      match rest with
      | [] => .error ⟨index, none⟩
      | b :: rest =>
        if isContinuation b then do
          return Char.ofNat ((a.toNat % 32) * 64 + payload b) :: (← decodeFrom (index + 2) rest)
        else .error ⟨index, some 1⟩
    else if 0xE0 ≤ a ∧ a ≤ 0xEF then
      match rest with
      | [] => .error ⟨index, none⟩
      -- A sequence that breaks off at the end has no length. One that goes wrong ends there.
      | [b] => .error ⟨index, if isSecondOfThree a b then none else some 1⟩
      | b :: c :: rest =>
        if !isSecondOfThree a b then .error ⟨index, some 1⟩
        else if !isContinuation c then .error ⟨index, some 2⟩
        else do
          return Char.ofNat ((a.toNat % 16) * 4096 + payload b * 64 + payload c) ::
            (← decodeFrom (index + 3) rest)
    else if 0xF0 ≤ a ∧ a ≤ 0xF4 then
      match rest with
      | [] => .error ⟨index, none⟩
      | [b] => .error ⟨index, if isSecondOfFour a b then none else some 1⟩
      | [b, c] =>
        .error ⟨index, if !isSecondOfFour a b then some 1
          else if isContinuation c then none else some 2⟩
      | b :: c :: d :: rest =>
        if !isSecondOfFour a b then .error ⟨index, some 1⟩
        else if !isContinuation c then .error ⟨index, some 2⟩
        else if !isContinuation d then .error ⟨index, some 3⟩
        else do
          return Char.ofNat
              ((a.toNat % 8) * 262144 + payload b * 4096 + payload c * 64 + payload d) ::
            (← decodeFrom (index + 4) rest)
    else .error ⟨index, some 1⟩

/-- The text that bytes encode, or the first place where they encode none. -/
def decode (bytes : List UInt8) : Except Fault String :=
  return String.ofList (← decodeFrom 0 bytes)

/-- Stands for bytes that encode no character. -/
def replacement : Char := '\uFFFD'

/-- The characters of bytes, with a replacement for every ill-formed sequence. Every sequence
has a byte at least, so there are fewer than `fuel`. -/
def lossyChars : Nat → List UInt8 → List Char
  | 0, _ => []
  | fuel + 1, bytes =>
    match decodeFrom 0 bytes with
    | .ok chars => chars
    | .error fault =>
      -- What stands in front of the fault is well-formed.
      let before := (decodeFrom 0 (bytes.take fault.index)).toOption.getD []
      let after := match fault.length with
        | some n => lossyChars fuel (bytes.drop (fault.index + n))
        | none => []
      before ++ replacement :: after

/-- The text of bytes, with a replacement for every ill-formed sequence. -/
def decodeLossy (bytes : List UInt8) : String :=
  String.ofList (lossyChars (bytes.length + 1) bytes)

end SchemaMigration.Text.Utf8
