/-!
# `SchemaMigration.Text.Size`: sizes for people to read

Below 1024 bytes a size is a count of bytes, from there on a number of kilobytes
with one decimal place. Of a very large size only the leading bits count.
-/

set_option autoImplicit false

namespace SchemaMigration.Text

/-- The quotient `num / den` rounded to the nearest natural number. A half goes to the even
neighbour. -/
def roundDiv (num den : Nat) : Nat :=
  let floor := num / den
  let twice := 2 * (num % den)
  if den < twice ∨ (twice = den ∧ floor % 2 = 1) then floor + 1 else floor

/-- The leading bits of a size that count. -/
def significantBits : Nat := 53

/-- The size nearest to a size that has no more bits than count. A half goes to the even
neighbour. -/
def roundedSize (bytes : Nat) : Nat :=
  let unit := 1 <<< (bytes.log2 + 1 - significantBits)
  roundDiv bytes unit * unit

/-- The text of a size in bytes. -/
def sizeText (bytes : Nat) : String :=
  if bytes < 1024 then s!"{bytes} B"
  else
    let tenths := roundDiv (10 * roundedSize bytes) 1024
    s!"{tenths / 10}.{tenths % 10} KB"

end SchemaMigration.Text
