import SchemaMigration.Error
import SchemaMigration.Keyed
import SchemaMigration.Schema.Column

/-!
# `SchemaMigration.Schema.Basic`: schemas

A schema is a list of tables and, under the key of each table's identifier, a
list of columns. A schema that was read from a document also has the text of the
document. The text is no part of the model, so two schemas are compared by
`toModel`.
-/

set_option autoImplicit false

namespace SchemaMigration

/-- A table. Its columns are kept beside it, under its identifier. -/
structure Table where
  id : Identifier
  name : String
  /-- Whether the table records when its rows are made and changed. -/
  timestamps : Bool := false
  /-- Whether deleted rows are kept and marked. -/
  softDelete : Bool := false
  deriving DecidableEq, Repr

/-- Tables and groups of columns. -/
structure Model where
  tables : List Table := []
  columns : Keyed (List Column) := .empty
  deriving DecidableEq, Repr

/-- A model, and the text of the document it was read from, if any. -/
structure Schema extends Model where
  source : Option String := none
  deriving DecidableEq, Repr

namespace Model

/-- The columns of a table. A table without a group of columns is malformed. -/
def columnsFor (model : Model) (table : Table) : Except Error (List Column) :=
  match model.columns.get? table.id.key with
  | some columns => .ok columns
  | none => .error (.malformedSchema (.noColumns table.name table.id))

/-- The first table of a name. -/
def tableNamed? (model : Model) (name : String) : Option Table :=
  model.tables.find? fun table => table.name == name

/-- The number of columns, of any group, that relate to another column. -/
def relationCount (model : Model) : Nat :=
  (model.columns.values.flatten.filter fun column => column.relation?.isSome).length

end Model

namespace Schema

/-- A schema without tables. -/
def empty : Schema := {}

/-- Attaches the text of a document. -/
def withSource (schema : Schema) (text : String) : Schema :=
  { schema with source := some text }

/-- Adds a table at the end and puts its columns under its identifier. -/
def addTable (schema : Schema) (table : Table) (columns : List Column) : Schema :=
  { schema with
    tables := schema.tables ++ [table]
    columns := schema.columns.insert table.id.key columns }

end Schema

end SchemaMigration
