import SchemaMigration.Number.Binary64
import SchemaMigration.Text.Literal

/-!
# `SchemaMigration.Schema.DefaultValue`: default values of columns
-/

set_option autoImplicit false

namespace SchemaMigration

open SchemaMigration.Number

/-- The default value of a column, of the kind in which a document gives it. -/
inductive DefaultValue where
  | boolean (b : Bool)
  | integer (n : Int64)
  | real (x : Binary64)
  | text (s : String)
  deriving DecidableEq, Repr

namespace DefaultValue

/-- Whether the value stands for no default. -/
def isEmpty : DefaultValue → Bool
  | .text s => s == ""
  | _ => false

/-- The text of a default that spells an integer. -/
def integerText? : DefaultValue → Option String
  | .text s => if Text.isIntegerLiteral s then some s else none
  | _ => none

end DefaultValue

end SchemaMigration
