import SchemaMigration.Proofs.Schema.BrokenKeys

/-!
# `SchemaMigration.Proofs.Schema.Validity`: the models that pass in strict mode

`Valid` says what a model has to be like, table by table and column by column, without a
word on how it is checked. A check in strict mode passes exactly the valid models. Any
other fails, with the fault of the first table that is not in order when there is one.
Groups of columns that no table has the key of are never looked at: two models that differ
in nothing else are checked alike (`validate_congr`).

A numeric and a textual identifier with the same text are the same key, so two tables may
have one group. It counts for both.
-/

set_option autoImplicit false

namespace SchemaMigration

open SchemaMigration.Outcome
open SchemaMigration.Text (SpellsName)

/-- A column relates to another when the identifier of its target column is there, and is
neither zero nor the empty text. -/
theorem Column.relation?_eq_some_iff {column : Column} {key : ForeignKey} :
    column.relation? = some key ↔ column.foreignKey = some key ∧
      ∃ id, key.column.id = some id ∧ id ≠ .number 0 ∧ id ≠ .text "" ∧ id ≠ .text "0" := by
  rw [relation?, Option.filter_eq_some_iff, ForeignKey.isPresent]
  refine and_congr_right fun _ => ?_
  cases key.column.id with
  | none => simp
  | some id =>
    cases id with
    | number n => simp [Identifier.isPresent]
    | text s => simp [Identifier.isPresent]

namespace Model

variable {model other : Model} {strictness : Strictness}

/-- A model that migrations can be made from. -/
structure Valid (model : Model) : Prop where
  /-- Tables are called by names. -/
  spellsName : ∀ table ∈ model.tables, SpellsName table.name
  /-- Each table has a group of columns. -/
  group : ∀ table ∈ model.tables, ∃ columns, model.columns.get? table.id.key = some columns
  /-- The columns of a table have names. -/
  named : ∀ table ∈ model.tables, ∀ column ∈ model.columnsOf table, column.name ≠ ""
  /-- Each of them has its own. -/
  distinct : ∀ table ∈ model.tables, ((model.columnsOf table).map (·.name)).Nodup
  /-- A foreign key names a column of the first table of the name that it has for the table. It
  counts when the identifier of its target column is neither zero nor empty. -/
  refers : ∀ table ∈ model.tables, ∀ column ∈ model.columnsOf table, ∀ key id,
    column.foreignKey = some key → key.column.id = some id →
      id ≠ .number 0 → id ≠ .text "" → id ≠ .text "0" →
        ∃ target, model.IsFirstNamed key.table.name target ∧
          ∃ found ∈ model.columnsOf target, found.name = key.column.name

/-- A model is valid when its tables are in order and none of their relations is broken. -/
theorem valid_iff :
    model.Valid ↔ (∀ table ∈ model.tables, model.Sound table) ∧ model.brokenKeys = [] := by
  rw [brokenKeys_eq_nil_iff]
  constructor
  · intro h
    refine ⟨fun table htable => ⟨h.spellsName table htable, h.group table htable,
      h.named table htable, h.distinct table htable⟩, ?_⟩
    intro table htable column hcolumn key hkey
    obtain ⟨hforeign, id, hid, hzero, hempty, hzeroText⟩ := Column.relation?_eq_some_iff.1 hkey
    exact h.refers table htable column hcolumn key id hforeign hid hzero hempty hzeroText
  · rintro ⟨hsound, hrefers⟩
    exact {
      spellsName := fun table htable => (hsound table htable).spellsName
      group := fun table htable => (hsound table htable).group
      named := fun table htable => (hsound table htable).namedApart.1
      distinct := fun table htable => (hsound table htable).namedApart.2
      refers := fun table htable column hcolumn key id hforeign hid hzero hempty hzeroText =>
        hrefers table htable column hcolumn key
          (Column.relation?_eq_some_iff.2 ⟨hforeign, id, hid, hzero, hempty, hzeroText⟩) }

/-! ### Groups without a table -/

/-- Two models have the same tables, and the same columns for each. -/
def AgreesOnTables (other model : Model) : Prop :=
  other.tables = model.tables ∧
    ∀ table ∈ model.tables, other.columns.get? table.id.key = model.columns.get? table.id.key

theorem AgreesOnTables.columnsOf_eq (h : other.AgreesOnTables model) {table : Table}
    (htable : table ∈ model.tables) : other.columnsOf table = model.columnsOf table := by
  rw [columnsOf, h.2 table htable, columnsOf]

theorem AgreesOnTables.checkTable_eq (h : other.AgreesOnTables model) {table : Table}
    (htable : table ∈ model.tables) : other.checkTable table = model.checkTable table := by
  rw [checkTable, checkTable, columnsFor, columnsFor, h.2 table htable]

theorem AgreesOnTables.brokenKey?_eq (h : other.AgreesOnTables model) (table : Table)
    (column : Column) : other.brokenKey? table column = model.brokenKey? table column := by
  rw [brokenKey?, brokenKey?, missing?, missing?]
  cases column.relation? with
  | none => rfl
  | some key =>
    -- A key is looked up in the tables, and then in the group of the table that is found.
    have htables : other.tableNamed? key.table.name = model.tableNamed? key.table.name := by
      rw [tableNamed?, tableNamed?, h.1]
    dsimp only [Option.bind_some]
    rw [htables]
    cases htarget : model.tableNamed? key.table.name with
    | none => rfl
    | some target =>
      dsimp only
      rw [h.columnsOf_eq (List.mem_of_find?_eq_some htarget)]

theorem AgreesOnTables.brokenKeys_eq (h : other.AgreesOnTables model) :
    other.brokenKeys = model.brokenKeys := by
  have hkeys : other.brokenKey? = model.brokenKey? := by
    funext table column
    exact h.brokenKey?_eq table column
  rw [brokenKeys, brokenKeys, h.1, hkeys, List.flatMap_def, List.flatMap_def]
  refine congrArg List.flatten (List.map_congr_left fun table htable => ?_)
  rw [h.columnsOf_eq htable]

/-- A check looks at the tables and at their columns. -/
theorem validate_congr (h : other.AgreesOnTables model) :
    other.validate strictness = model.validate strictness := by
  have hchecks : other.tables.forM other.checkTable = model.tables.forM model.checkTable := by
    rw [h.1]
    exact forM_congr fun table htable => h.checkTable_eq htable
  cases hmodel : model.tables.forM model.checkTable with
  | error error =>
    rw [validate, validate, hchecks, hmodel]
    rfl
  | ok _ =>
    have hother := hchecks.trans hmodel
    rw [validate_of_sound (checkTables_eq_ok_iff.1 hother),
      validate_of_sound (checkTables_eq_ok_iff.1 hmodel), h.brokenKeys_eq]

/-- A check in strict mode passes the valid models, without warnings, and no others. When a
table is not in order, it fails with the fault of the first such table. Groups of columns that
belong to no table make no difference to it. -/
theorem validate_strict (model : Model) :
    (∀ warnings, model.validate .strict = .ok warnings ↔ model.Valid ∧ warnings = []) ∧
      (∀ fault, model.FirstFault fault →
        model.validate .strict = .error (.malformedSchema fault)) ∧
      ((∃ table ∈ model.tables, ¬ model.Sound table) → ∃ fault, model.FirstFault fault) ∧
      ∀ other : Model, other.AgreesOnTables model →
        other.validate .strict = model.validate .strict := by
  refine ⟨fun warnings => ?_, fun fault hfault => validate_of_firstFault hfault,
    exists_firstFault_iff.2, fun other hagrees => validate_congr hagrees⟩
  rw [validate_strict_eq_ok_iff, valid_iff, and_assoc]

/-- A table `posts` with a broken relation, and behind it a table `users` that has a column
twice. -/
def repeatedBehindStray : Model where
  tables := [{ id := .number 2, name := "posts" }, { id := .number 1, name := "users" }]
  columns := .ofList [
    ("2", [.increments "id", .foreign "author_id" "authors" "id"]),
    ("1", [.increments "id", { name := "email", type := .string },
      { name := "id", type := .string }])]

/-- The fault of `users` is the error, although `posts` comes first. -/
theorem validate_strict_repeatedBehindStray :
    repeatedBehindStray.FirstFault (.repeatedColumn "users" "id") ∧
      repeatedBehindStray.brokenKeys ≠ [] ∧
      repeatedBehindStray.validate .strict =
        .error (.malformedSchema (.repeatedColumn "users" "id")) := by
  have hposts : repeatedBehindStray.Sound { id := .number 2, name := "posts" } :=
    checkTable_eq_ok_iff.1 (eq_ok_of_toOption (by decide))
  have husers : repeatedBehindStray.HasFault { id := .number 1, name := "users" }
      (.repeatedColumn "users" "id") := by
    have hgroup : repeatedBehindStray.columns.get? "1" = some
        ([.increments "id", { name := "email", type := .string }] ++
          { name := "id", type := .string } :: []) := rfl
    have hbefore : NamedApart [.increments "id", { name := "email", type := .string }] :=
      ⟨by decide, by decide⟩
    exact .column (Text.isName_iff.1 (by decide)) hgroup hbefore
      (.repeated (by decide) (by decide))
  have hfirst : repeatedBehindStray.FirstFault (.repeatedColumn "users" "id") :=
    ⟨[_], _, [], rfl, by simpa using hposts, husers⟩
  obtain ⟨-, hfault, -, -⟩ := validate_strict repeatedBehindStray
  exact ⟨hfirst, by decide, hfault _ hfirst⟩

end Model

end SchemaMigration
