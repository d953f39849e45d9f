import SchemaMigration.Number.Binary64
import SchemaMigration.Text.Digits

/-!
# `SchemaMigration.Json.Numeral`: numbers of a JSON text

A numeral is an optional minus sign, digits without a leading zero, and an
optional fraction and exponent. A numeral without both, in the range of 64-bit
words, is an integer. All others are doubles, `-0` too.
-/

set_option autoImplicit false

namespace SchemaMigration.Json

open SchemaMigration.Number
open SchemaMigration.Text (longDigitsValue spanDigits length_dropWhile_le)

/-- The value of a numeral. -/
inductive Numeral where
  /-- An integer between `-2 ^ 63` and `2 ^ 64 - 1`. -/
  | integer (n : Int)
  /-- Any other number, rounded to a double. -/
  | real (x : Binary64)
  /-- A number past the greatest finite double. -/
  | tooLarge
  deriving DecidableEq, Repr

namespace Numeral

/-- The digits before the point. A zero stands alone. -/
def readWhole : List Char → Option (List Char × List Char)
  | [] => none
  | c :: rest =>
    if c = '0' then
      match rest with
      | [] => some (['0'], [])
      | d :: after => if d.isDigit then none else some (['0'], d :: after)
    else if c.isDigit then some (c :: (spanDigits rest).1, (spanDigits rest).2)
    else none

/-- The digits after the point, or none when there is no point. -/
def readFraction : List Char → Option (List Char × List Char)
  | '.' :: rest =>
    if (spanDigits rest).1.isEmpty then none else some (spanDigits rest)
  | rest => some ([], rest)

/-- The digits of an exponent behind its sign. -/
def readPower (negative : Bool) (text : List Char) : Option (Option Int × List Char) :=
  if (spanDigits text).1.isEmpty then none
  else
    let n : Int := longDigitsValue (spanDigits text).1
    some (some (if negative then -n else n), (spanDigits text).2)

/-- The exponent, or `none` inside when there is none. -/
def readExponent : List Char → Option (Option Int × List Char)
  | [] => some (none, [])
  | c :: rest =>
    if c = 'e' ∨ c = 'E' then
      match rest with
      | '-' :: rest => readPower true rest
      | '+' :: rest => readPower false rest
      | rest => readPower false rest
    else some (none, c :: rest)

/-- The number with these digits. -/
def ofParts (negative : Bool) (whole fraction : List Char) (exponent : Option Int) : Numeral :=
  let real (digits : Nat) (power : Int) : Numeral :=
    match Binary64.ofDecimal? negative digits power with
    | some x => .real x
    | none => .tooLarge
  match fraction, exponent with
  | [], none =>
    -- Only digits alone are an integer. One that does not fit into 64 bits is a double.
    let n := longDigitsValue whole
    if negative then
      -- The double keeps the sign of minus zero.
      if 0 < n ∧ n ≤ Int64.size / 2 then .integer (-n) else real n 0
    else if n < UInt64.size then .integer n else real n 0
  | fraction, exponent =>
    real (longDigitsValue (whole ++ fraction)) (exponent.getD 0 - fraction.length)

/-- Reads the unsigned part of a numeral at the front of a text. -/
def readUnsigned (negative : Bool) (text : List Char) : Option (Numeral × List Char) := do
  let (whole, text) ← readWhole text
  let (fraction, text) ← readFraction text
  let (exponent, text) ← readExponent text
  return (ofParts negative whole fraction exponent, text)

/-- Reads a numeral at the front of a text. -/
def read : List Char → Option (Numeral × List Char)
  | '-' :: rest => readUnsigned true rest
  | text => readUnsigned false text

theorem length_of_readWhole {text digits rest : List Char}
    (h : readWhole text = some (digits, rest)) : rest.length < text.length := by
  unfold readWhole at h
  split at h
  · simp at h
  · next c tail =>
    split at h
    · split at h
      · simp at h; simp [← h.2]
      · split at h
        · simp at h
        · simp at h; simp [← h.2]
    · split at h
      · simp only [Option.some.injEq, Prod.mk.injEq] at h
        have := length_dropWhile_le Char.isDigit tail
        simp only [← h.2, spanDigits, List.length_cons]
        omega
      · simp at h

theorem length_of_readFraction {text digits rest : List Char}
    (h : readFraction text = some (digits, rest)) : rest.length ≤ text.length := by
  unfold readFraction at h
  split at h
  · next tail =>
    split at h
    · simp at h
    · simp only [Option.some.injEq, spanDigits, Prod.mk.injEq] at h
      have := length_dropWhile_le Char.isDigit tail
      simp only [← h.2, List.length_cons]
      omega
  · simp at h; simp [← h.2]

theorem length_of_readPower {negative : Bool} {text : List Char} {e : Option Int}
    {rest : List Char} (h : readPower negative text = some (e, rest)) :
    rest.length ≤ text.length := by
  unfold readPower at h
  split at h
  · simp at h
  · simp only [Option.some.injEq, Prod.mk.injEq] at h
    simp only [← h.2, spanDigits]
    exact length_dropWhile_le _ _

theorem length_of_readExponent {text : List Char} {e : Option Int} {rest : List Char}
    (h : readExponent text = some (e, rest)) : rest.length ≤ text.length := by
  unfold readExponent at h
  split at h
  · simp at h; simp [← h.2]
  · split at h
    · split at h <;> have := length_of_readPower h <;> simp only [List.length_cons] at * <;> omega
    · simp at h; simp [← h.2]

theorem length_of_readUnsigned {negative : Bool} {text : List Char} {n : Numeral}
    {rest : List Char} (h : readUnsigned negative text = some (n, rest)) :
    rest.length < text.length := by
  simp only [readUnsigned, Option.bind_eq_bind, Option.bind_eq_some_iff, Option.pure_def,
    Option.some.injEq, Prod.mk.injEq] at h
  obtain ⟨⟨w, t⟩, hw, ⟨f, t'⟩, hf, ⟨e, t''⟩, he, _, rfl⟩ := h
  have hw := length_of_readWhole hw
  have hf := length_of_readFraction hf
  have he := length_of_readExponent he
  dsimp only at hw hf he ⊢
  omega

/-- Reading a numeral takes at least one character. -/
theorem length_of_read {text : List Char} {n : Numeral} {rest : List Char}
    (h : read text = some (n, rest)) : rest.length < text.length := by
  unfold read at h
  split at h
  · have := length_of_readUnsigned h
    simp only [List.length_cons]
    omega
  · exact length_of_readUnsigned h

end Numeral

end SchemaMigration.Json
