import SchemaMigration.Number.Binary64

/-!
# `SchemaMigration.Number.Shortest`: the fewest digits that read back

A double stands for all reals that round to it. Of the decimals among those, the
ones with the fewest digits are taken, and of them the one nearest to the double.
An exact tie between two is decided by a `Tie`.

A grid of `n` digits has a point among those reals exactly when one of the two
grid points around the double is among them, so only those two are tested, for
`n` from 1 to 17.
-/

set_option autoImplicit false

namespace SchemaMigration.Number

/-- Which of two equally near decimals is taken. -/
inductive Tie where
  /-- The greater one. -/
  | up
  /-- The one with an even last digit. -/
  | even
  deriving DecidableEq, Repr

/-- The decimal `digits * 10 ^ power`. -/
structure Decimal where
  digits : Nat
  power : Int
  deriving DecidableEq, Repr

namespace Decimal

/-- Moves up to `fuel` zeros from the end of the digits into the power. -/
def dropZeros : Nat → Decimal → Decimal
  | 0, d => d
  | fuel + 1, d =>
    if d.digits ≠ 0 ∧ d.digits % 10 = 0 then dropZeros fuel ⟨d.digits / 10, d.power + 1⟩ else d

end Decimal

namespace Binary64

/-- The reals that round to a positive double lie between two bounds. In units of a quarter
of the last place of `x`, these are the lower bound, the double itself and the upper bound. -/
def quarters (x : Binary64) : Nat × Nat × Nat :=
  -- Just below a power of two the doubles stand twice as close.
  let below := if x.mantissa = 1 <<< 52 ∧ x.exponent ≠ -1074 then 1 else 2
  (4 * x.mantissa - below, 4 * x.mantissa, 4 * x.mantissa + 2)

/-- The greatest `k` with `10 ^ k ≤ num / den`, for positive `num` and `den`. -/
def floorLog10 (num den : Nat) : Int :=
  let a := (Nat.toDigits 10 num).length
  let b := (Nat.toDigits 10 den).length
  if den * Nat.pow 10 (a - b) ≤ num * Nat.pow 10 (b - a) then (a : Int) - b else (a : Int) - b - 1

/-- The best point of the decimal grid with spacing `10 ^ power`, if one rounds to `x`. -/
def onGrid? (tie : Tie) (x : Binary64) (power : Int) : Option Decimal :=
  let (low, here, high) := x.quarters
  let quarter := x.exponent - 2
  -- A count of quarters and a count of grid steps are equal reals when these multiples are equal.
  let perQuarter := Nat.pow 10 (-power).toNat <<< quarter.toNat
  let perStep := Nat.pow 10 power.toNat <<< (-quarter).toNat
  let inside (steps : Nat) : Bool :=
    let spot := steps * perStep
    -- The bounds themselves round to an even mantissa.
    if x.mantissa % 2 = 0 then low * perQuarter ≤ spot && spot ≤ high * perQuarter
    else low * perQuarter < spot && spot < high * perQuarter
  let floor := here * perQuarter / perStep
  let twice := 2 * (here * perQuarter % perStep)
  let nearestIsFloor :=
    twice < perStep || (twice = perStep && tie = .even && floor % 2 = 0)
  match inside floor, inside (floor + 1) with
  | true, true => some ⟨if nearestIsFloor then floor else floor + 1, power⟩
  | true, false => some ⟨floor, power⟩
  | false, true => some ⟨floor + 1, power⟩
  | false, false => none

/-- The magnitude of a double in the fewest digits that read back. -/
def shortest (tie : Tie) (x : Binary64) : Decimal :=
  if x.mantissa = 0 then ⟨0, 0⟩
  else
    let top := floorLog10 (x.mantissa <<< x.exponent.toNat) (1 <<< (-x.exponent).toNat)
    let grids := (List.range 17).map fun (n : Nat) => top - n
    match grids.findSome? (onGrid? tie x) with
    | some d => d.dropZeros 17
    | none => ⟨x.mantissa, 0⟩

end Binary64

end SchemaMigration.Number
