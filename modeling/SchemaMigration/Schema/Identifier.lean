/-!
# `SchemaMigration.Schema.Identifier`: identifiers of tables and columns

A designer names its tables by numbers or by texts. Both kinds are kept, and both
have a text, which is the key of a table's columns.
-/

set_option autoImplicit false

namespace SchemaMigration

/-- An identifier that a designer gave. -/
inductive Identifier where
  | number (n : Int64)
  | text (s : String)
  deriving DecidableEq, Repr

namespace Identifier

/-- The text of an identifier. A number and its digits have the same text. -/
def key : Identifier → String
  | .number n => toString n.toInt
  | .text s => s

/-- Whether the identifier names anything: zero and the empty text do not. -/
def isPresent : Identifier → Bool
  | .number n => n != 0
  | .text s => s != "" && s != "0"

end Identifier

end SchemaMigration
