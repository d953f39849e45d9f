import Mathlib.Algebra.BigOperators.Group.List.Basic
import SchemaMigration.Proofs.Generation.Output
import SchemaMigration.Proofs.Json.BuiltTree
import SchemaMigration.Proofs.Schema.RearrangedDocument
import SchemaMigration.Proofs.Schema.RelationCount
import SchemaMigration.Proofs.Schema.Validity

/-!
# `SchemaMigration.Proofs.Generation.GroupOrder`: the order of groups makes no difference

A run goes through the tables of a schema in order, and asks for the columns of each by its key. The
groups of columns themselves are only counted. So schemas with the same tables and the same groups
are checked alike (`check_reordered`) and give the same migrations (`generate_reordered`). What the
runs make differs in the snapshot alone, which is the document.

With the documents that are loaded as such schemas this says what of a document counts for the
migrations: neither the order of members, nor members that the model knows nothing of, nor the order
of groups under distinct keys (`rearranged_documents`).
-/

set_option autoImplicit false

namespace SchemaMigration

open SchemaMigration.Calendar
open SchemaMigration.Json
open SchemaMigration.Outcome

namespace Model

variable {model other : Model}

theorem Reordered.agreesOnTables (h : model.Reordered other) : other.AgreesOnTables model :=
  ⟨h.tables, fun table _ => Keyed.get?_perm h.groups table.id.key⟩

/-- The same groups have the same number of relations. -/
theorem Reordered.relationCount_eq (h : model.Reordered other) :
    other.relationCount = model.relationCount := by
  rw [Model.relationCount_eq, Model.relationCount_eq]
  exact (h.groups.map _).sum_eq

end Model

namespace Generator

variable {config : Config} {model other : Model} {assembler : Assembler} {progress : Progress}

/-- The same tables and groups are checked alike. -/
theorem check_reordered (h : model.Reordered other) : check config other = check config model := by
  have hnames : migrationNames config other = migrationNames config model := by
    rw [migrationNames, migrationNames, h.tables, h.relationCount_eq]
  rw [check, check, Model.validate_congr h.agreesOnTables, hnames]

/-- A run asks for the columns of the tables. -/
theorem processEach_congr {tables : List Table}
    (h : ∀ table ∈ tables, other.columnsFor table = model.columnsFor table) :
    processEach other assembler progress tables = processEach model assembler progress tables := by
  induction tables generalizing progress with
  | nil => rfl
  | cons table tables ih =>
    rw [List.forall_mem_cons] at h
    rw [processEach, processEach, processTable, processTable, h.1]
    simp only [ih h.2]

theorem processTables_reordered (h : model.Reordered other) :
    processTables other assembler progress = processTables model assembler progress := by
  have hcolumns : ∀ table ∈ model.tables, other.columnsFor table = model.columnsFor table := by
    intro table htable
    rw [Model.columnsFor, Model.columnsFor, h.agreesOnTables.2 table htable]
  simp only [processTables, h.tables, processEach_congr hcolumns]

/-- Artifacts and an outcome that differ from others in the last artifact alone, if there is one for
the end. -/
structure DiffersInLast (first second : Artifact) (p q : Production Unit) : Prop where
  outcome : q.outcome = p.outcome
  artifacts : p.outcome = .ok () → ∃ files, p.artifacts = files ++ [first] ∧
    q.artifacts = files ++ [second]

variable {first second : Artifact} {α : Type}

/-- What is made first is the same. -/
theorem DiffersInLast.bind (p : Production α) {f g : α → Production Unit}
    (h : ∀ a, DiffersInLast first second (f a) (g a)) :
    DiffersInLast first second (p >>= f) (p >>= g) := by
  obtain ⟨files, outcome⟩ := p
  cases outcome with
  | error error =>
    rw [Production.bind_of_error rfl, Production.bind_of_error rfl]
    exact ⟨rfl, nofun⟩
  | ok a =>
    rw [Production.bind_of_ok rfl, Production.bind_of_ok rfl]
    refine ⟨(h a).outcome, fun hend => ?_⟩
    obtain ⟨rest, hfirst, hsecond⟩ := (h a).artifacts hend
    exact ⟨files ++ rest, by simp [hfirst], by simp [hsecond]⟩

/-- Runs for the same tables and groups differ in the snapshot. -/
theorem produce_reordered {schema other : Schema} {base : Moment}
    (h : schema.toModel.Reordered other.toModel) (hbase : config.baseTime = some base)
    (now now' : Moment) :
    DiffersInLast (.snapshot schema.snapshot) (.snapshot other.snapshot)
      (produce config now schema) (produce config now' other) := by
  unfold produce
  rw [hbase]
  simp only [Option.getD_some, processTables_reordered h]
  refine .bind _ fun sequencer => .bind _ fun assembler => .bind _ fun progress =>
    .bind _ fun progress => ?_
  -- Only the snapshot is left, and the end of the run.
  cases hfinal : progress.advance .finalizing with
  | error error =>
    simp only [finalize, hfinal, Production.lift_error_bind]
    exact ⟨rfl, fun hok => by cases hok⟩
  | ok final =>
    simp only [finalize, hfinal, Production.lift_ok_bind, Production.emit_bind, Production.pure_eq]
    have hend {file : Artifact} {f : Progress → Production Unit} :
        (⟨[file], .ok final⟩ : Production Progress) >>= f =
          ⟨file :: (f final).artifacts, (f final).outcome⟩ := Production.bind_of_ok rfl f
    rw [hend, hend]
    cases final.advance .closed with
    | error error => exact ⟨rfl, fun hok => by cases hok⟩
    | ok closed => exact ⟨rfl, fun _ => ⟨[], rfl, rfl⟩⟩

/-- Runs for the same tables and groups fail alike, or give the same warnings and the same
migrations. Behind the migrations each has its own snapshot. -/
theorem generate_reordered {schema other : Schema} {base : Moment}
    (h : schema.toModel.Reordered other.toModel) (hbase : config.baseTime = some base)
    (now now' : Moment) :
    generate config now' other = (generate config now schema).map fun output =>
      { output with files := output.migrations ++ [.snapshot other.snapshot] } := by
  have hcheck : check config other.toModel = check config schema.toModel := check_reordered h
  -- Both schemas are checked alike, so both fail here or none does.
  cases hwarnings : check config schema.toModel with
  | error error =>
    rw [generate, generate, hcheck, hwarnings]
    rfl
  | ok warnings =>
    obtain ⟨houtcome, hartifacts⟩ := produce_reordered h hbase now now'
    rw [generate_eq (hcheck.trans hwarnings), generate_eq hwarnings, houtcome]
    cases hend : (produce config now schema).outcome with
    | error error => rfl
    | ok _ =>
      obtain ⟨files, hfiles, hfiles'⟩ := hartifacts hend
      have hmigrations : ({ files := (produce config now schema).artifacts, warnings } :
          Collection).migrations = files := by
        obtain ⟨_, _, tableFiles, relationFiles, -, hproduced⟩ := produced_of_outcome
          (accepted_of_check hwarnings) rfl hend
        rw [hproduced.migrations_eq]
        exact List.append_cancel_right (hproduced.artifacts_eq.symm.trans hfiles)
      simp only [Except.map, hmigrations, hfiles']

/-- A document that is loaded holds a tree. Every document that holds this tree rearranged is loaded
as an equal schema. At a fixed time the runs for both fail alike, or give the same warnings and the
same migrations, each with its own document behind them. -/
theorem rearranged_documents {text : String} {schema : Schema}
    (h : Schema.ofText text = .ok schema) :
    ∃ root, Holds text root ∧ ∀ root' text', Model.rearranged root root' → Holds text' root' →
      ∃ schema', Schema.ofText text' = .ok schema' ∧ schema'.tables = schema.tables ∧
        schema'.columns.entries.Perm schema.columns.entries ∧
        (∀ key, schema'.columns.get? key = schema.columns.get? key) ∧
        ∀ (config : Config) (base now now' : Moment), config.baseTime = some base →
          generate config now' schema' = (generate config now schema).map fun output =>
            { output with files := output.migrations ++ [.snapshot text'] } := by
  obtain ⟨root, hroot, hloaded⟩ := ofText_rearranged h
  refine ⟨root, hroot, fun root' text' hchange hroot' => ?_⟩
  obtain ⟨schema', hschema', hsame⟩ := hloaded root' text' hchange hroot'
  refine ⟨schema', hschema', hsame.tables, hsame.groups, Keyed.get?_perm hsame.groups,
    fun config base now now' hbase => ?_⟩
  have hsource : schema'.snapshot = text' := by
    rw [Schema.snapshot, (ofText_eq_ok_iff.1 hschema').1, Option.getD_some]
  rw [generate_reordered hsame hbase now now', hsource]

/-! ### A document in two orders -/

/-- A key column, as it is written in a document. -/
def idColumn : Value :=
  .object [("name", .string "id"), ("type", .string "integer"), ("autoInc", .boolean true)]

/-- The column from back to front, with a note. -/
def notedColumn : Value :=
  .object [("note", .array [.integer 3, .null]), ("autoInc", .boolean true),
    ("type", .string "integer"), ("name", .string "id")]

/-- Two tables, as they are written in a document. -/
def twoTables : Value :=
  .array [
    .object [("id", .integer 1), ("name", .string "users")],
    .object [("id", .integer 2), ("name", .string "posts")]]

/-- A document with two tables of one column. -/
def plainDocument : Value :=
  .object [("tables", twoTables),
    ("columns", .object [("1", .array [idColumn]), ("2", .array [idColumn])])]

/-- The document from back to front, with its groups the other way round and with a version. -/
def annotatedDocument : Value :=
  .object [("version", .string "2"),
    ("columns", .object [("2", .array [notedColumn]), ("1", .array [idColumn])]),
    ("tables", twoTables)]

/-- The model of the document. -/
def plainModel : Model where
  tables := [{ id := .number 1, name := "users" }, { id := .number 2, name := "posts" }]
  columns := .ofList [
    ("1", [{ name := "id", type := .integer, autoIncrement := true }]),
    ("2", [{ name := "id", type := .integer, autoIncrement := true }])]

theorem holds_plainDocument : Holds plainDocument.compact plainDocument.tree := by
  refine holds_of_cutInto (cutInto_compact ?_)
  simp [plainDocument, twoTables, idColumn, Value.Readable, Value.ReadableItems,
    Value.ReadableMembers]

theorem holds_annotatedDocument : Holds annotatedDocument.compact annotatedDocument.tree := by
  refine holds_of_cutInto (cutInto_compact ?_)
  simp [annotatedDocument, twoTables, idColumn, notedColumn, Value.Readable, Value.ReadableItems,
    Value.ReadableMembers]

theorem ofText_plainDocument : Schema.ofText plainDocument.compact =
    .ok { plainModel with source := some plainDocument.compact } :=
  ofText_eq_ok_iff.2 ⟨rfl, plainDocument.tree, holds_plainDocument,
    eq_ok_of_toOption (by decide)⟩

theorem rearranged_idColumn : Column.rearranged idColumn.tree idColumn.tree :=
  rearranged_written _ [] (.cons ⟨rfl, rfl⟩ (.cons ⟨rfl, rfl⟩ (.cons ⟨rfl, rfl⟩ .nil)))
    (List.forall_mem_nil _) (.refl _)

theorem rearranged_notedColumn : Column.rearranged idColumn.tree notedColumn.tree :=
  rearranged_written _ [("note", .array [.integer 3, .null])]
    (.cons ⟨rfl, rfl⟩ (.cons ⟨rfl, rfl⟩ (.cons ⟨rfl, rfl⟩ .nil)))
    (List.forall_mem_singleton.2 rfl) (List.reverse_perm [_, _, _, _])

theorem rearranged_twoTables : Change.list Table.rearranged twoTables.tree twoTables.tree := by
  have htable (id name : Value) : Table.rearranged (Value.object [("id", id), ("name", name)]).tree
      (Value.object [("id", id), ("name", name)]).tree :=
    rearranged_written _ [] (.cons ⟨rfl, rfl⟩ (.cons ⟨rfl, rfl⟩ .nil)) (List.forall_mem_nil _)
      (.refl _)
  rw [twoTables, Value.tree_array]
  exact .items (.cons (htable _ _) (.cons (htable _ _) .nil))

theorem rearranged_annotatedDocument :
    Model.rearranged plainDocument.tree annotatedDocument.tree := by
  have hgroup {column column' : Value} (h : Column.rearranged column.tree column'.tree) :
      Change.list Column.rearranged (Value.array [column]).tree (Value.array [column']).tree := by
    rw [Value.tree_array, Value.tree_array]
    exact .items (.cons h .nil)
  -- The second group gets a comment in its column, and then comes first.
  have hcolumns : Change.groups (.list Column.rearranged)
      (Value.object [("1", .array [idColumn]), ("2", .array [idColumn])]).tree
      (Value.object [("2", .array [notedColumn]), ("1", .array [idColumn])]).tree := by
    rw [Value.tree_object, Value.tree_object]
    exact @Change.groups.permuted _ _
      [(some "1", _), (some "2", (Value.array [notedColumn]).tree)] _
      (.cons ⟨rfl, hgroup rearranged_idColumn⟩ (.cons ⟨rfl, hgroup rearranged_notedColumn⟩ .nil))
      (by decide) (.swap _ _ _)
  exact rearranged_written
    [("tables", twoTables),
      ("columns", .object [("2", .array [notedColumn]), ("1", .array [idColumn])])]
    [("version", .string "2")]
    (.cons ⟨rfl, rearranged_twoTables⟩ (.cons ⟨rfl, hcolumns⟩ .nil))
    (List.forall_mem_singleton.2 rfl) (List.reverse_perm [_, _, _])

/-- The document from back to front is loaded, and the run for it has the same migrations. -/
theorem rearranged_documents_annotated :
    ∃ schema' output,
      Schema.ofText plainDocument.compact =
        .ok { plainModel with source := some plainDocument.compact } ∧
      Schema.ofText annotatedDocument.compact = .ok schema' ∧
      schema'.tables = plainModel.tables ∧ fixedTime.baseTime = some firstMoment ∧
      generate fixedTime firstMoment { plainModel with source := some plainDocument.compact } =
        .ok output ∧
      generate fixedTime firstMoment schema' =
        .ok { output with
          files := output.migrations ++ [.snapshot annotatedDocument.compact] } := by
  obtain ⟨root, hroot, hall⟩ := rearranged_documents ofText_plainDocument
  obtain rfl := hroot.unique holds_plainDocument
  obtain ⟨schema', hschema', htables, -, -, hgenerate⟩ :=
    hall _ _ rearranged_annotatedDocument holds_annotatedDocument
  have hcheck : check fixedTime plainModel = .ok [] :=
    check_fixedTime_of_folded (by decide) (by decide)
  have hexists : ∃ output, generate fixedTime firstMoment
      { plainModel with source := some plainDocument.compact } = .ok output :=
    exists_generate_fixedTime hcheck (by decide)
  obtain ⟨output, houtput⟩ := hexists
  have hsame := hgenerate fixedTime firstMoment firstMoment firstMoment rfl
  rw [houtput] at hsame
  exact ⟨schema', output, ofText_plainDocument, hschema', htables, rfl, houtput, hsame⟩

end Generator

end SchemaMigration
