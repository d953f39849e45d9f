/-!
# `SchemaMigration.Text.Ranges`: sets of characters as tables

A table of the Unicode character database is an array of ranges, with both ends
included.
-/

set_option autoImplicit false

namespace SchemaMigration.Text

/-- Whether a number lies in one of the ranges. -/
def inRanges (ranges : Array (Nat × Nat)) (n : Nat) : Bool :=
  ranges.any fun (low, high) => low ≤ n && n ≤ high

end SchemaMigration.Text
