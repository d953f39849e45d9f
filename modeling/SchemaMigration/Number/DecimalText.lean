import SchemaMigration.Number.Shortest

/-!
# `SchemaMigration.Number.DecimalText`: the text of a double

Two ways to write a double: positional at any size for a statement, and the JSON
form, which keeps a decimal point and turns to an exponent for very large and
very small numbers.
-/

set_option autoImplicit false

namespace SchemaMigration.Number

/-- The digits of a decimal without an exponent: a fraction only where there is one. -/
def Decimal.positional (d : Decimal) : String :=
  let ds := Nat.toDigits 10 d.digits
  if 0 ≤ d.power then String.ofList (ds ++ List.replicate d.power.toNat '0')
  else
    let places := (-d.power).toNat
    let ds := List.replicate (places + 1 - ds.length) '0' ++ ds
    String.ofList (ds.take (ds.length - places) ++ '.' :: ds.drop (ds.length - places))

/-- The digits of a decimal with a signed exponent, one digit before the point. -/
def Decimal.scientific (d : Decimal) : String :=
  let ds := Nat.toDigits 10 d.digits
  let exponent := d.power + (ds.length - 1 : Nat)
  let fraction := ds.drop 1
  let sign := if exponent < 0 then "-" else "+"
  String.ofList (ds.take 1 ++ (if fraction.isEmpty then [] else '.' :: fraction)) ++
    s!"e{sign}{exponent.natAbs}"

namespace Binary64

/-- The sign of a double, which a negative zero has too. -/
def signText (x : Binary64) : String :=
  if x.negative then "-" else ""

/-- The text of a double in a statement: never an exponent, a fraction only where there is
one, and of two equally near texts the greater one. -/
def plainText (x : Binary64) : String :=
  x.signText ++ (x.shortest .up).positional

/-- The text of a double in JSON: always a fraction or an exponent. The exponent stands where
the first digit counts less than `10 ^ -5` or at least `10 ^ 16`. -/
def jsonText (x : Binary64) : String :=
  let d := x.shortest .even
  let exponent := d.power + ((Nat.toDigits 10 d.digits).length - 1 : Nat)
  x.signText ++
    if exponent < -5 ∨ 16 ≤ exponent then d.scientific
    else if 0 ≤ d.power then d.positional ++ ".0"
    else d.positional

end Binary64

end SchemaMigration.Number
