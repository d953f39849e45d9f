import SchemaMigration.Schema.Basic
import SchemaMigration.Migration.Relations

/-!
# `SchemaMigration.Proofs.Schema.Relations`: the relations of a model

The relations of a model are read off its tables in order, and off the columns of
each table in order. Groups of columns that belong to no table have no part in it.
-/

set_option autoImplicit false

namespace SchemaMigration.Model

/-- The columns of a table, or none when it has no group. -/
def columnsOf (model : Model) (table : Table) : List Column :=
  (model.columns.get? table.id.key).getD []

/-- The relations of the columns of a table, in order. -/
def relationsOf (model : Model) (table : Table) : List Relation :=
  (model.columnsOf table).filterMap fun column =>
    column.relation?.map fun key => ⟨table.name, column.name, key.table.name, key.column.name⟩

/-- All relations, table by table. -/
def relations (model : Model) : List Relation :=
  model.tables.flatMap model.relationsOf

/-- Whether a column of a table relates to another column. -/
def HasRelation (model : Model) : Prop :=
  ∃ table ∈ model.tables, ∃ column ∈ model.columnsOf table, column.relation?.isSome

/-- The number of migrations: one for each table, and one for the relations if there are any. -/
def migrationCount (model : Model) : Nat :=
  model.tables.length + if model.relations = [] then 0 else 1

theorem columnsFor_eq_ok_iff {model : Model} {table : Table} {columns : List Column} :
    model.columnsFor table = .ok columns ↔
      model.columns.get? table.id.key = some columns := by
  unfold columnsFor
  split <;> simp_all

theorem columnsOf_of_columnsFor {model : Model} {table : Table} {columns : List Column}
    (h : model.columnsFor table = .ok columns) : model.columnsOf table = columns := by
  rw [columnsOf, columnsFor_eq_ok_iff.1 h, Option.getD_some]

theorem relations_ne_nil_iff (model : Model) : model.relations ≠ [] ↔ model.HasRelation := by
  rw [relations, Ne, List.flatMap_eq_nil_iff]
  simp only [HasRelation, relationsOf, List.filterMap_eq_nil_iff, Option.map_eq_none_iff,
    Classical.not_forall, Option.isSome_iff_ne_none, exists_prop, Ne]

end SchemaMigration.Model
