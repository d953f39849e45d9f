import SchemaMigration.Proofs.Generation.Resolution
import SchemaMigration.Proofs.Migration.RelationReading
import SchemaMigration.Proofs.Schema.RelationCount

/-!
# `SchemaMigration.Proofs.Generation.RelationStatements`: how many foreign keys a run adds

What a run adds is read off its output: the statements in the migration of relations, or none
when there is no such migration (`Collection.addedRelations?`). A run adds the relations of its
model, one statement for each (`addedRelations_of_generate`).

The number that is reported of a schema is counted before a run, over the groups of columns.
Both numbers are sums over the groups (`relation_statements`). They agree when every group with
relations is that of one table. No check asks for this, and an accepted schema may report
relations that it does not add, or fewer than it adds.
-/

set_option autoImplicit false

namespace SchemaMigration

open SchemaMigration.Calendar
open SchemaMigration.Outcome

/-- The relations that the migrations of a collection add, read off its migration of relations.
There are none without such a migration. -/
def Collection.addedRelations? (name : String) (output : Collection) : Option (List Relation) :=
  match output.relations? with
  | none => some []
  | some file => Assembler.readRelations name file.content.toList

namespace Generator

variable {base : Moment} {config : Config} {now : Moment} {schema : Schema}
  {assembler : Assembler} {tableFiles relationFiles artifacts : List Artifact}
  {output : Collection}

/-- There is no migration of relations when there are no relations. -/
theorem relations?_eq_none_iff (h : generate config now schema = .ok output) :
    output.relations? = none ↔ schema.toModel.relations = [] := by
  obtain ⟨-, -, assembler, tableFiles, relationFiles, -, hproduced⟩ := produced_of_generate h rfl
  rw [Collection.relations?, hproduced.find_relations]
  rcases hproduced.relations with ⟨rfl, hnone⟩ | ⟨file, rfl, hsome, -⟩
  · simp [hnone]
  · simp [hsome]

/-- A run that succeeds adds the relations of its model, in order. -/
theorem addedRelations_of_generate (h : generate config now schema = .ok output) :
    output.addedRelations? config.relationsName = some schema.toModel.relations := by
  obtain ⟨-, -, assembler, tableFiles, relationFiles, hassembler, hproduced⟩ :=
    produced_of_generate h rfl
  rw [Collection.addedRelations?, Collection.relations?, hproduced.find_relations]
  rcases hproduced.relations with ⟨rfl, hnone⟩ | ⟨file, rfl, -, hmigration⟩
  · rw [hnone]
    rfl
  · obtain ⟨set, blocks, hblocks, hset, hcontent⟩ :=
      hmigration.exists_blocks (Assembler.hasStubs_of_ofExtension hassembler)
    rw [List.head?_cons, ← hset]
    dsimp only
    rw [hcontent, Assembler.readRelations_relationsText config.relationsName hblocks]

/-- The statements that a run adds are the relations of each group, as often as there are tables
with its key. The count of a schema takes each group once. The count is zero when there is no
migration of relations and no stray relation, and it is the number of statements when each group
with relations is that of one table. -/
theorem relation_statements (h : generate config now schema = .ok output) :
    ∃ added, output.addedRelations? config.relationsName = some added ∧
      added.length = (schema.columns.entries.map fun group =>
        schema.toModel.tablesUnder group.1 * Model.relationsIn group.2).sum ∧
      schema.toModel.relationCount =
        (schema.columns.entries.map fun group => Model.relationsIn group.2).sum ∧
      (output.relations? = none ↔ added = []) ∧
      (schema.toModel.relationCount = 0 ↔
        output.relations? = none ∧ ¬ schema.toModel.HasStrayRelation) ∧
      ((∀ group ∈ schema.columns.entries,
          0 < Model.relationsIn group.2 → schema.toModel.tablesUnder group.1 = 1) →
        schema.toModel.relationCount = added.length) := by
  refine ⟨schema.toModel.relations, addedRelations_of_generate h,
    schema.toModel.length_relations_eq, schema.toModel.relationCount_eq,
    relations?_eq_none_iff h, ?_, Model.relationCount_eq_length⟩
  have hnone : ¬ schema.toModel.HasRelation ↔ schema.toModel.relations = [] :=
    (not_congr schema.toModel.relations_ne_nil_iff.symm).trans not_ne_iff
  rw [relations?_eq_none_iff h, ← hnone, ← not_or, ← Model.relationCount_pos_iff,
    Nat.pos_iff_ne_zero, not_ne_iff]

/-- Two tables share a group with one relation, and the schema reports one. A run adds it for
each of them. -/
theorem relation_statements_sharedGroup :
    ∃ output added, generate fixedTime firstMoment sharedSchema = .ok output ∧
      output.addedRelations? fixedTime.relationsName = some added ∧ added.length = 2 ∧
      sharedSchema.toModel.relationCount = 1 := by
  obtain ⟨output, houtput⟩ := exists_generate_sharedGroup
  obtain ⟨added, hadded, hlength, hcount, -, -, -⟩ := relation_statements houtput
  refine ⟨output, added, houtput, hadded, ?_, ?_⟩
  · rw [hlength]
    decide
  · rw [hcount]
    decide

/-- A table, and a relation in a group of no table. -/
def strayUsers : Schema where
  tables := [{ id := .number 1, name := "users" }]
  columns := .ofList [
    ("1", [.increments "id"]),
    ("9", [.increments "id", .foreign "user_id" "users" "id"])]

/-- The schema is accepted and reports a relation, and a run has no migration of relations. -/
theorem relationCount_strayUsers :
    check fixedTime strayUsers.toModel = .ok [] ∧ strayUsers.toModel.relationCount = 1 ∧
      ∃ output, generate fixedTime firstMoment strayUsers = .ok output ∧
        output.relations? = none ∧ output.addedRelations? fixedTime.relationsName = some [] := by
  have hcheck : check fixedTime strayUsers.toModel = .ok [] :=
    check_fixedTime_of_folded (by decide) (by decide)
  have hnone : strayUsers.toModel.relations = [] := by decide
  obtain ⟨output, houtput⟩ := exists_generate_fixedTime hcheck (by decide)
  refine ⟨hcheck, by decide, output, houtput, ?_, ?_⟩
  · exact (relations?_eq_none_iff houtput).2 hnone
  · rw [addedRelations_of_generate houtput, hnone]

end Generator

end SchemaMigration
