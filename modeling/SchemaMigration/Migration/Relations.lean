import SchemaMigration.Schema.Basic
import SchemaMigration.Text.Literal

/-!
# `SchemaMigration.Migration.Relations`: foreign keys of all tables

Foreign keys are collected while tables are processed, in groups by table, and
written to one migration after all tables. Groups and the columns in them keep
the order in which they first came. A column that comes again keeps its place and
takes the new target.

The migration has two sides that agree line by line: one adds the
constraints, the other drops each by the name that adding it gave it.
-/

set_option autoImplicit false

namespace SchemaMigration

/-- A column and the column it refers to. -/
structure Relation where
  table : String
  column : String
  targetTable : String
  targetColumn : String
  deriving DecidableEq, Repr

/-- What a column refers to. -/
structure RelationTarget where
  table : String
  column : String
  deriving DecidableEq, Repr

/-- Relations in groups by table. -/
structure RelationSet where
  groups : Keyed (Keyed RelationTarget) := .empty
  deriving DecidableEq, Repr

namespace RelationSet

/-- No relations. -/
def empty : RelationSet := {}

/-- Adds a relation to the group of its table. -/
def add (set : RelationSet) (r : Relation) : RelationSet :=
  let group := (set.groups.get? r.table).getD .empty
  ⟨set.groups.insert r.table (group.insert r.column ⟨r.targetTable, r.targetColumn⟩)⟩

/-- The relation of a column of a table. -/
def relationOf? (table : Table) (column : Column) : Option Relation :=
  column.relation?.map fun key => ⟨table.name, column.name, key.table.name, key.column.name⟩

/-- Adds the relations of a table's columns. -/
def addTable (set : RelationSet) (table : Table) (columns : List Column) : RelationSet :=
  (columns.filterMap (relationOf? table)).foldl add set

/-- Whether there are no relations. -/
def isEmpty (set : RelationSet) : Bool :=
  set.groups.entries.isEmpty

/-- The number of tables with relations. -/
def tableCount (set : RelationSet) : Nat :=
  set.groups.size

/-- The number of relations. -/
def size (set : RelationSet) : Nat :=
  set.groups.values.foldl (fun count group => count + group.size) 0

/-- All relations in order. -/
def toList (set : RelationSet) : List Relation :=
  set.groups.entries.flatMap fun (table, group) =>
    group.entries.map fun (column, target) => ⟨table, column, target.table, target.column⟩

end RelationSet

/-- The name that a constraint gets when it is added. -/
def constraintName (table column : String) : String :=
  table ++ "_" ++ column ++ "_foreign"

/-- The lines of the two sides of a relations migration. -/
structure RelationBlocks where
  apply : List String
  revert : List String
  deriving DecidableEq, Repr

namespace RelationBlocks

/-- The indentation of a line that opens or closes a group. -/
def groupIndent : String := "        "

/-- The indentation of a statement in a group. -/
def statementIndent : String := "            "

/-- The line that opens the group of a table. -/
def openLine (table : String) : String :=
  groupIndent ++ "Schema::table(" ++ Text.quoted table ++ ", function (Blueprint $table) \x7b"

/-- The line that closes a group. -/
def closeLine : String :=
  groupIndent ++ "\x7d);"

/-- The line that adds a constraint. -/
def addLine (column : String) (target : RelationTarget) : String :=
  statementIndent ++ "$table->foreign(" ++ Text.quoted column ++ ")->references(" ++
    Text.quoted target.column ++ ")->on(" ++ Text.quoted target.table ++ ");"

/-- The line that drops a constraint. -/
def dropLine (table column : String) : String :=
  statementIndent ++ "$table->dropForeign(" ++ Text.quoted (constraintName table column) ++ ");"

/-- The lines of groups, with one line for each relation. -/
def groupLines (line : String → String → RelationTarget → String) (set : RelationSet) :
    List String :=
  set.groups.entries.flatMap fun (table, group) =>
    [openLine table] ++ group.entries.map (fun (column, target) => line table column target) ++
      [closeLine]

/-- The two sides of a relations migration, if there are relations. -/
def ofSet? (set : RelationSet) : Option RelationBlocks :=
  if set.isEmpty then none
  else
    some
      { apply := groupLines (fun _ column target => addLine column target) set
        revert := groupLines (fun table column _ => dropLine table column) set }

end RelationBlocks

end SchemaMigration
