import SchemaMigration.Number.DecimalText
import SchemaMigration.Schema.Column
import SchemaMigration.Text.Literal

/-!
# `SchemaMigration.Migration.Statement`: the builder statement of a column

A column becomes one call of a builder method, followed by calls that modify it
in a fixed order: default, nullable, unique, index, unsigned, comment. A column
that counts up by itself uses the counting form of its type and has no length, no
default and no unsigned modifier.
-/

set_option autoImplicit false

namespace SchemaMigration

/-- The literal of a default value. A text that spells an integer stands without quotes. -/
def DefaultValue.literal : DefaultValue → String
  | .boolean b => if b then "true" else "false"
  | .integer n => toString n.toInt
  | .real x => x.plainText
  | .text s => if Text.isIntegerLiteral s then s else Text.quoted s

/-- A call of the schema builder that makes a column. -/
structure Statement where
  method : String
  name : String
  length : Option UInt32
  default : Option DefaultValue
  nullable : Bool
  unique : Bool
  index : Bool
  unsigned : Bool
  comment : Option String
  deriving DecidableEq, Repr

namespace Statement

/-- The statement that makes a column. -/
def ofColumn (column : Column) : Statement where
  method :=
    if column.autoIncrement then column.type.increments?.getD column.type.name
    else column.type.name
  name := column.name
  -- An increments method has neither length nor default, and is unsigned as it is.
  length := if column.autoIncrement then none else column.effectiveLength?
  default := if column.autoIncrement then none else column.effectiveDefault?
  nullable := column.nullable
  unique := column.unique
  index := column.index
  unsigned := column.unsigned && !column.autoIncrement
  comment := column.effectiveComment?

/-- The text of an optional part. -/
def optionalText {α : Type} (text : α → String) : Option α → String
  | some a => text a
  | none => ""

/-- A modifier without arguments. -/
def flagText (method : String) (set : Bool) : String :=
  if set then "->" ++ method ++ "()" else ""

/-- The text of a statement. -/
def text (s : Statement) : String :=
  "$table->" ++ s.method ++ "(" ++ Text.quoted s.name ++
    optionalText (fun n => ", " ++ toString n.toNat) s.length ++ ")" ++
    optionalText (fun value => "->default(" ++ value.literal ++ ")") s.default ++
    flagText "nullable" s.nullable ++
    flagText "unique" s.unique ++
    flagText "index" s.index ++
    flagText "unsigned" s.unsigned ++
    optionalText (fun comment => "->comment(" ++ Text.quoted comment ++ ")") s.comment ++
    ";"

/-- The statement that makes the columns of a table's time stamps. -/
def timestamps : String := "$table->timestamps();"

/-- The statement that makes the column of a table's soft deletes. -/
def softDeletes : String := "$table->softDeletes();"

end Statement

/-- The statement of a column, as text. -/
def Column.statement (column : Column) : String :=
  (Statement.ofColumn column).text

end SchemaMigration
