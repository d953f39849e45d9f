import SchemaMigration.Json.Tree
import SchemaMigration.Json.Value
import SchemaMigration.Text.Escaped

/-!
# `SchemaMigration.Json.ReadError`: why a JSON text is refused

A text is ill-formed, or it is JSON of the wrong shape. Only the second kind has
a message of its own.
-/

set_option autoImplicit false

namespace SchemaMigration.Json

open SchemaMigration.Number

/-- A value of the wrong type, as a message names it. -/
inductive Found where
  | null
  | boolean (b : Bool)
  | integer (n : Int)
  | real (x : Binary64)
  | string (text : String)
  | sequence
  | map
  deriving DecidableEq, Repr

/-- How a message names a value. -/
def Found.text : Found → String
  | .null => "null"
  | .boolean b => s!"boolean `{Value.booleanText b}`"
  | .integer n => s!"integer `{n}`"
  | .real x => s!"floating point `{x.jsonText}`"
  | .string text => s!"string {Text.escaped text}"
  | .sequence => "sequence"
  | .map => "map"

/-- A shape that does not fit. -/
inductive ShapeError where
  | missingField (name : String)
  | duplicateField (name : String)
  | unknownVariant (name : String) (expected : List String)
  | invalidType (found : Found) (expected : String)
  | invalidLength (length : Nat) (expected : String)
  /-- A value that is none of the alternatives of a type. -/
  | noAlternative (type : String)
  /-- A text that is no column length. -/
  | columnLength (text : String)
  deriving DecidableEq, Repr

/-- The message of a shape error. -/
def ShapeError.message : ShapeError → String
  | .missingField name => s!"missing field `{name}`"
  | .duplicateField name => s!"duplicate field `{name}`"
  | .unknownVariant name expected =>
    let names := String.intercalate ", " (expected.map fun e => s!"`{e}`")
    s!"unknown variant `{name}`, expected one of {names}"
  | .invalidType found expected => s!"invalid type: {found.text}, expected {expected}"
  | .invalidLength length expected => s!"invalid length {length}, expected {expected}"
  | .noAlternative type => s!"data did not match any variant of untagged enum {type}"
  | .columnLength text => s!"invalid column length '{text}'"

/-- Why a text is refused. -/
inductive ReadError where
  /-- The text is no JSON, or JSON past the limits of this reader. -/
  | illFormed
  | shape (error : ShapeError)
  deriving DecidableEq, Repr

end SchemaMigration.Json
