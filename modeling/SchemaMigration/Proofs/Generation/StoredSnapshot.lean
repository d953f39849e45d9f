import SchemaMigration.Proofs.Generation.Output
import SchemaMigration.Proofs.Schema.SavedText

/-!
# `SchemaMigration.Proofs.Generation.StoredSnapshot`: the document of a schema that grew

A schema that was read from a document keeps the text of the document, and adding tables
does not change the text (`source_addTables`). The text is therefore the snapshot of the
schema at any later time, and it is what a run stores beside the migrations of all tables.

The snapshot still describes the model only as long as no table has been added: each
addition makes the list of tables longer than that of the document
(`snapshot_addTables`).
-/

set_option autoImplicit false

namespace SchemaMigration

open SchemaMigration.Generator (generate check fixedTime firstMoment)
open SchemaMigration.Json (CutInto cutInto_compact)

namespace Schema

/-- Adds tables with their columns, one after the other. -/
def addTables (schema : Schema) (added : List (Table × List Column)) : Schema :=
  added.foldl (fun schema (table, columns) => schema.addTable table columns) schema

variable {schema loaded : Schema} {text : String}

/-- Added tables do not change the text that a schema was read from. -/
theorem source_addTables (schema : Schema) (added : List (Table × List Column)) :
    (schema.addTables added).source = schema.source := by
  induction added generalizing schema with
  | nil => rfl
  | cons first rest ih =>
    show ((schema.addTable first.1 first.2).addTables rest).source = schema.source
    rw [ih]
    rfl

/-- Added tables stand behind those of the schema. -/
theorem tables_addTables (schema : Schema) (added : List (Table × List Column)) :
    (schema.addTables added).tables = schema.tables ++ added.map Prod.fst := by
  induction added generalizing schema with
  | nil => simp [addTables]
  | cons first rest ih =>
    show ((schema.addTable first.1 first.2).addTables rest).tables = _
    rw [ih, addTable, List.append_assoc, List.map_cons, List.singleton_append]

theorem source_of_ofText (h : ofText text = .ok loaded) : loaded.source = some text := by
  rw [ofText] at h
  split at h
  · rw [← Except.ok.inj h]
  · cases h

/-- A schema that was read from a text and grew still has the text as its snapshot. -/
theorem snapshot_of_ofText (h : ofText text = .ok loaded) (added : List (Table × List Column)) :
    (loaded.addTables added).snapshot = text := by
  rw [snapshot, source_addTables, source_of_ofText h, Option.getD_some]

/-- The snapshot of a schema that was read from a document is the document, whatever tables
have been added, and a run stores it. The schema it is loaded as is the one of the document,
which is the model of the run exactly when no table has been added. -/
theorem snapshot_addTables (h : ofText text = .ok loaded) (added : List (Table × List Column)) :
    (loaded.addTables added).snapshot = text ∧
      (∀ config now output,
        generate config now (loaded.addTables added) = .ok output →
          .snapshot text ∈ output.files) ∧
      ((∃ reloaded, ofText (loaded.addTables added).snapshot = .ok reloaded ∧
          reloaded.toModel = (loaded.addTables added).toModel) ↔ added = []) := by
  have hsnapshot := snapshot_of_ofText h added
  refine ⟨hsnapshot, fun config now output houtput => ?_, ?_⟩
  · obtain ⟨-, -, _, _, _, -, hproduced⟩ := Generator.produced_of_generate houtput rfl
    rw [hproduced.artifacts_eq, hsnapshot]
    exact List.mem_append_right _ (List.mem_singleton_self _)
  rw [hsnapshot, h]
  constructor
  · rintro ⟨reloaded, hreloaded, hmodel⟩
    obtain rfl := Except.ok.inj hreloaded
    -- The models would have equally many tables.
    have htables : loaded.tables = loaded.tables ++ added.map Prod.fst :=
      (congrArg Model.tables hmodel).trans (tables_addTables loaded added)
    exact List.map_eq_nil_iff.1 (List.self_eq_append_right.1 htables)
  · rintro rfl
    exact ⟨loaded, rfl, rfl⟩

/-- The document of a schema without tables. -/
def emptyDocument : String := "\x7b\"tables\":[],\"columns\":\x7b\x7d\x7d"

theorem ofText_emptyDocument : ofText emptyDocument = .ok (empty.withSource emptyDocument) := by
  have htext : emptyDocument = empty.toCompactText := by decide
  have hcut : CutInto emptyDocument empty.toModel.toValue.tokens := by
    rw [htext]
    exact cutInto_compact (readable_model (by simp [Model.DefaultsReadBack, empty, Keyed.values,
      Keyed.empty]))
  exact ofText_of_cutInto hcut

/-- A table `users` without columns. -/
def usersTable : Table × List Column := ({ id := .number 1, name := "users" }, [])

/-- The schema of the document without tables, and a table added to it. -/
def grownSchema : Schema := (empty.withSource emptyDocument).addTables [usersTable]

theorem exists_generate_grownSchema :
    ∃ output, generate fixedTime firstMoment grownSchema = .ok output := by
  have hcheck : check fixedTime grownSchema.toModel = .ok [] :=
    Generator.check_fixedTime_of_folded (by decide) (by decide)
  exact Generator.exists_generate_fixedTime hcheck (by decide)

/-- A run of the grown schema stores the document without tables. -/
theorem snapshot_addTables_users :
    ofText emptyDocument = .ok (empty.withSource emptyDocument) ∧
      grownSchema.snapshot = emptyDocument ∧
      ∃ output, generate fixedTime firstMoment grownSchema =
          .ok output ∧ .snapshot emptyDocument ∈ output.files := by
  obtain ⟨hsnapshot, hstored, -⟩ := snapshot_addTables ofText_emptyDocument [usersTable]
  obtain ⟨output, houtput⟩ := exists_generate_grownSchema
  exact ⟨ofText_emptyDocument, hsnapshot, output, houtput, hstored _ _ _ houtput⟩

/-- With one table added, the snapshot of a document without tables is not loaded as the
model that it should describe. -/
theorem not_reloaded_addTable_users :
    ∃ loaded, ofText emptyDocument = .ok loaded ∧
      ¬ ∃ reloaded, ofText (loaded.addTables [usersTable]).snapshot = .ok reloaded ∧
        reloaded.toModel = (loaded.addTables [usersTable]).toModel := by
  refine ⟨_, ofText_emptyDocument, ?_⟩
  rintro ⟨reloaded, hreloaded, hmodel⟩
  rw [snapshot_of_ofText ofText_emptyDocument, ofText_emptyDocument] at hreloaded
  obtain rfl := Except.ok.inj hreloaded
  have htables := congrArg (fun model : Model => model.tables.length) hmodel
  cases htables

end Schema

end SchemaMigration
