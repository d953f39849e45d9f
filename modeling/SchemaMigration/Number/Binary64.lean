import SchemaMigration.Text.Size

/-!
# `SchemaMigration.Number.Binary64`: finite doubles, exactly

A finite double is a sign, a mantissa and a power of two. The fields are the
canonical ones, so two doubles are equal exactly when they are the same bits.
Decimals are rounded to the nearest double in natural-number arithmetic. No
operation on machine floats is involved.
-/

set_option autoImplicit false

namespace SchemaMigration.Number

/-- The finite double `± mantissa * 2 ^ exponent`. -/
structure Binary64 where
  /-- Whether the sign is minus. Zero has both signs. -/
  negative : Bool
  mantissa : Nat
  exponent : Int
  /-- A mantissa has at most 53 bits. -/
  mantissa_lt : mantissa < 1 <<< 53
  /-- A mantissa has 53 bits unless the exponent is the least one. -/
  normal : exponent = -1074 ∨ 1 <<< 52 ≤ mantissa
  /-- The exponents of finite doubles. -/
  exponent_le : exponent ≤ 971
  deriving DecidableEq, Repr

namespace Binary64

/-- A zero of either sign. -/
def zero (negative : Bool) : Binary64 where
  negative
  mantissa := 0
  exponent := -1074
  mantissa_lt := by decide
  normal := .inl rfl
  exponent_le := by decide

instance : Inhabited Binary64 := ⟨zero false⟩

/-- The double with these fields, if they are canonical. -/
def ofFields? (negative : Bool) (mantissa : Nat) (exponent : Int) : Option Binary64 :=
  if h : mantissa < 1 <<< 53 ∧ (exponent = -1074 ∨ 1 <<< 52 ≤ mantissa) ∧ exponent ≤ 971 then
    some ⟨negative, mantissa, exponent, h.1, h.2.1, h.2.2⟩
  else none

/-- The greatest `k` with `2 ^ k ≤ num / den`, for positive `num` and `den`. -/
def floorLog2 (num den : Nat) : Int :=
  let a := Nat.log2 num
  let b := Nat.log2 den
  if den <<< (a - b) ≤ num <<< (b - a) then (a : Int) - b else (a : Int) - b - 1

/-- The double nearest to the positive quotient `num / den`. A half goes to the even
mantissa. There is none past the greatest finite double. -/
def ofQuotient? (negative : Bool) (num den : Nat) : Option Binary64 :=
  let exponent := max (floorLog2 num den - 52) (-1074)
  let mantissa := Text.roundDiv (num <<< (-exponent).toNat) (den <<< exponent.toNat)
  -- Rounding up may need one bit more. The mantissa is then a power of two, so it can be halved.
  if mantissa = 1 <<< 53 then ofFields? negative (1 <<< 52) (exponent + 1)
  else ofFields? negative mantissa exponent

/-- The double nearest to `± digits * 10 ^ power`, or `none` when that is past the greatest
finite double. Powers far outside the range of doubles are settled by the number of bits
alone, since ten has more than three. -/
def ofDecimal? (negative : Bool) (digits : Nat) (power : Int) : Option Binary64 :=
  let bits := digits.log2 + 3 * power
  if digits = 0 ∨ bits < -1080 then some (zero negative)
  else if 0 ≤ power ∧ 1024 ≤ bits then none
  else ofQuotient? negative (digits * Nat.pow 10 power.toNat) (Nat.pow 10 (-power).toNat)

end Binary64

end SchemaMigration.Number
