import SchemaMigration.Proofs.Generation.Acceptance
import SchemaMigration.Proofs.Migration.RelationView

/-!
# `SchemaMigration.Proofs.Generation.RelationRun`: the relations that a run collects

While tables are processed their relations go into one set, in groups by table name
and, in a group, under column names. A table with the name of an earlier one would
join its group, and a column with the name of an earlier one would take its place.
An accepted model has neither: its tables have distinct classes, hence distinct
names, and the columns of each table are distinct. Only then does the set list every
relation of the model once and in order (`toList_processTables`).

Two tables may share a group of columns. Each then has relations of its own, since
the set keeps them apart by the tables' names.
-/

set_option autoImplicit false

namespace SchemaMigration.Generator

open SchemaMigration.Calendar
open SchemaMigration.Outcome

/-- The relations of tables added to a set, one table after the other. -/
def addTables (model : Model) (set : RelationSet) (tables : List Table) : RelationSet :=
  tables.foldl (fun set table => set.addTable table (model.columnsOf table)) set

/-- Tables with new and distinct names, each with distinct columns, put their relations behind
those that the set listed before. -/
theorem toList_addTables {model : Model} {tables : List Table} {set : RelationSet}
    (hnew : ∀ table ∈ tables, table.name ∉ set.groups.keys)
    (hnames : (tables.map (·.name)).Nodup)
    (hcolumns : ∀ table ∈ tables, ((model.columnsOf table).map (·.name)).Nodup) :
    (addTables model set tables).toList = set.toList ++ tables.flatMap model.relationsOf := by
  induction tables generalizing set with
  | nil => simp [addTables]
  | cons table rest ih =>
    rw [List.map_cons, List.nodup_cons] at hnames
    -- The first table may open a group, but only one under its own name (`hkeys`).
    obtain ⟨hfirst, hkeys⟩ :=
      RelationSet.toList_addTable (hnew table (by simp)) (hcolumns table (by simp))
    have hrest : ∀ other ∈ rest,
        other.name ∉ (set.addTable table (model.columnsOf table)).groups.keys := by
      intro other hother hmem
      rcases hkeys _ hmem with heq | hold
      · exact hnames.1 (heq ▸ List.mem_map_of_mem hother)
      · exact hnew other (by simp [hother]) hold
    have := ih hrest hnames.2 fun other hother => hcolumns other (by simp [hother])
    rw [show addTables model set (table :: rest) =
      addTables model (set.addTable table (model.columnsOf table)) rest from rfl, this, hfirst,
      List.flatMap_cons, List.append_assoc]
    rfl

theorem noEmptyGroup_addTables {model : Model} (tables : List Table) {set : RelationSet}
    (h : set.NoEmptyGroup) : (addTables model set tables).NoEmptyGroup := by
  induction tables generalizing set with
  | nil => exact h
  | cons table rest ih =>
    exact ih (RelationSet.noEmptyGroup_addTable h table (model.columnsOf table))

/-- The tables of an accepted model have the relations of the model. -/
theorem Accepted.toList_addTables {config : Config} {model : Model} (h : Accepted config model) :
    (addTables model .empty model.tables).toList = model.relations := by
  rw [Generator.toList_addTables (by simp [RelationSet.empty, Keyed.keys, Keyed.empty])
    h.nodup_tables fun table => h.nodup_columnsOf]
  rfl

variable {model : Model} {assembler : Assembler} {progress after : Progress}

/-- A table that is processed has added its relations to those before. -/
theorem relations_of_processTable {table : Table}
    (h : (processTable model assembler progress table).outcome = .ok after) :
    after.relations = progress.relations.addTable table (model.columnsOf table) := by
  unfold processTable at h
  -- The columns, the key, the migration and its emission have all succeeded.
  obtain ⟨columns, hcolumns, h⟩ := Production.outcome_bind_eq_ok_iff.1 h
  obtain ⟨next, -, h⟩ := Production.outcome_bind_eq_ok_iff.1 h
  obtain ⟨file, -, h⟩ := Production.outcome_bind_eq_ok_iff.1 h
  obtain ⟨_, -, h⟩ := Production.outcome_bind_eq_ok_iff.1 h
  rw [Model.columnsOf_of_columnsFor hcolumns]
  exact congrArg Progress.relations (Except.ok.inj h).symm

theorem relations_of_processEach {tables : List Table}
    (h : (processEach model assembler progress tables).outcome = .ok after) :
    after.relations = addTables model progress.relations tables := by
  induction tables generalizing progress with
  | nil => exact congrArg Progress.relations (Except.ok.inj h).symm
  | cons table rest ih =>
    rw [processEach] at h
    obtain ⟨middle, hfirst, hrest⟩ := Production.outcome_bind_eq_ok_iff.1 h
    rw [ih hrest, relations_of_processTable hfirst]
    rfl

/-- The relations that a run has after the tables of an accepted model are those of the model:
none is lost, merged or moved, and none is there twice. -/
theorem toList_processTables {config : Config} {warnings : List String}
    (hcheck : check config model = .ok warnings)
    (h : (processTables model assembler progress).outcome = .ok after) :
    after.relations.toList = model.relations ∧
      after.relations.size = model.relations.length := by
  obtain ⟨started, -, hrun⟩ := Production.outcome_bind_eq_ok_iff.1 h
  have hset : after.relations = addTables model .empty model.tables :=
    relations_of_processEach hrun
  have hlist : after.relations.toList = model.relations := by
    rw [hset]
    exact (accepted_of_check hcheck).toList_addTables
  exact ⟨hlist, by rw [RelationSet.size_eq_length, hlist]⟩

/-- Two tables with one group of columns, which refers to the first of them. -/
def sharedGroup : Model where
  tables := [⟨.text "a", "posts", false, false⟩, ⟨.text "a", "pages", true, false⟩]
  columns := .ofList [("a", [.increments "id", .foreign "post_id" "posts" "id"])]

/-- The start of a day in 2023. -/
def firstMoment : Moment := ⟨739000, 0, 0, by decide, by decide⟩

/-- Settings with a fixed time, and a single word for the name of the relations. -/
def fixedTime : Config := { baseTime := some firstMoment, relationsName := "links" }

/-- A schema that is in order passes the check with these settings when the names differ in more
than case and underscores. -/
theorem check_fixedTime_of_folded {model : Model}
    (hmodel : (model.validate .strict).toOption = some [])
    (hnames : ((migrationNames fixedTime model).map fun name =>
      Text.foldCase (Text.withoutUnderscores name)).Nodup) :
    check fixedTime model = .ok [] :=
  check_eq_ok_of_folded rfl (eq_ok_of_toOption hmodel) hnames

/-- The model passes the check. -/
theorem check_sharedGroup : check fixedTime sharedGroup = .ok [] :=
  check_fixedTime_of_folded (by decide) (by decide)

/-- An assembler whose templates have nothing but slots. -/
def slotAssembler : Assembler where
  createTable := ⟨"table", [.slot "class", .slot "table", .slot "columns"]⟩
  relations := ⟨"relations", [.slot "class", .slot "apply", .slot "revert"]⟩
  extension := "php"

/-- Each of two tables that share a group has a relation of its own. -/
theorem toList_processTables_sharedGroup :
    check fixedTime sharedGroup = .ok [] ∧ ∃ after,
      (processTables sharedGroup slotAssembler { sequencer := ⟨firstMoment, 60, 0⟩ }).outcome =
        .ok after ∧
      after.relations.toList =
        [⟨"posts", "post_id", "posts", "id"⟩, ⟨"pages", "post_id", "posts", "id"⟩] := by
  obtain ⟨after, hrun⟩ := exists_ok_of_isSome (x := (processTables sharedGroup slotAssembler
    { sequencer := ⟨firstMoment, 60, 0⟩ }).outcome) (by decide)
  refine ⟨check_sharedGroup, after, hrun, ?_⟩
  rw [(toList_processTables check_sharedGroup hrun).1]
  decide

end SchemaMigration.Generator
