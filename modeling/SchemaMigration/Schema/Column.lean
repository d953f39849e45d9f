import SchemaMigration.Schema.Identifier
import SchemaMigration.Schema.ColumnType
import SchemaMigration.Schema.DefaultValue

/-!
# `SchemaMigration.Schema.Column`: columns and their foreign keys

A column carries what its designer entered. What counts of that is said by the
functions here: a length only where the type takes one, a default and a comment
only when they are not empty, a foreign key only when the identifier of its
target column is present.
-/

set_option autoImplicit false

namespace SchemaMigration

/-- One end of a foreign key: a table or a column. -/
structure Target where
  id : Option Identifier := none
  name : String := ""
  deriving DecidableEq, Repr

/-- A foreign key, as a designer sends it with every column. -/
structure ForeignKey where
  /-- The table referred to. -/
  table : Target := {}
  /-- The column referred to. -/
  column : Target := {}
  deriving DecidableEq, Repr

namespace ForeignKey

/-- A foreign key to a column of a table. -/
def toColumn (table column : String) : ForeignKey where
  table := { name := table }
  column := { id := some (.text column), name := column }

/-- Whether the foreign key relates to anything. -/
def isPresent (key : ForeignKey) : Bool :=
  match key.column.id with
  | some id => id.isPresent
  | none => false

end ForeignKey

/-- A column of a table. -/
structure Column where
  name : String
  type : ColumnType
  length : Option UInt32 := none
  nullable : Bool := false
  unique : Bool := false
  index : Bool := false
  unsigned : Bool := false
  autoIncrement : Bool := false
  default : Option DefaultValue := none
  comment : Option String := none
  foreignKey : Option ForeignKey := none
  deriving DecidableEq, Repr

namespace Column

/-- An integer key that counts up by itself. -/
def increments (name : String) : Column :=
  { name, type := .integer, autoIncrement := true }

/-- An unsigned integer that refers to a column of a table. -/
def foreign (name table column : String) : Column :=
  { name, type := .integer, unsigned := true, foreignKey := some (.toColumn table column) }

/-- The foreign key of a column that relates to anything. -/
def relation? (column : Column) : Option ForeignKey :=
  column.foreignKey.filter ForeignKey.isPresent

/-- The length that counts: positive, and only for types that take one. -/
def effectiveLength? (column : Column) : Option UInt32 :=
  column.length.filter fun n => 0 < n && column.type.takesLength

/-- The default that counts. -/
def effectiveDefault? (column : Column) : Option DefaultValue :=
  column.default.filter fun value => !value.isEmpty

/-- The comment that counts. -/
def effectiveComment? (column : Column) : Option String :=
  column.comment.filter (· != "")

end Column

end SchemaMigration
