import SchemaMigration.Json.Value
import SchemaMigration.Schema.Basic

/-!
# `SchemaMigration.Schema.Writing`: schemas as JSON

The JSON values of a model and its parts. Fields stand in declaration order, and
an optional field without a value is left out.
-/

set_option autoImplicit false

namespace SchemaMigration

open SchemaMigration.Json

/-- The member of an optional field. -/
def optionalMember {α : Type} (key : String) (value : Option α) (toValue : α → Value) :
    List (String × Value) :=
  match value with
  | some a => [(key, toValue a)]
  | none => []

/-- The JSON value of an identifier. -/
def Identifier.toValue : Identifier → Value
  | .number n => .integer n.toInt
  | .text s => .string s

/-- The JSON value of a default. -/
def DefaultValue.toValue : DefaultValue → Value
  | .boolean b => .boolean b
  | .integer n => .integer n.toInt
  | .real x => .real x
  | .text s => .string s

/-- The JSON value of one end of a foreign key. -/
def Target.toValue (target : Target) : Value :=
  .object (optionalMember "id" target.id Identifier.toValue ++ [("name", .string target.name)])

/-- The JSON value of a foreign key. -/
def ForeignKey.toValue (key : ForeignKey) : Value :=
  .object [("on", key.table.toValue), ("references", key.column.toValue)]

/-- The JSON value of a column. -/
def Column.toValue (column : Column) : Value :=
  .object <|
    [("name", .string column.name), ("type", .string column.type.name)] ++
    optionalMember "length" column.length (fun n => .integer n.toNat) ++
    [("nullable", .boolean column.nullable), ("unique", .boolean column.unique),
      ("index", .boolean column.index), ("unsigned", .boolean column.unsigned),
      ("autoInc", .boolean column.autoIncrement)] ++
    optionalMember "defValue" column.default DefaultValue.toValue ++
    optionalMember "comment" column.comment .string ++
    optionalMember "foreignKey" column.foreignKey ForeignKey.toValue

/-- The JSON value of a table. -/
def Table.toValue (table : Table) : Value :=
  .object [("id", table.id.toValue), ("name", .string table.name),
    ("timeStamp", .boolean table.timestamps), ("softDelete", .boolean table.softDelete)]

/-- The JSON value of a model. -/
def Model.toValue (model : Model) : Value :=
  .object [
    ("tables", .array (model.tables.map Table.toValue)),
    ("columns", .object (model.columns.entries.map fun (key, columns) =>
      (key, .array (columns.map Column.toValue))))]

end SchemaMigration
