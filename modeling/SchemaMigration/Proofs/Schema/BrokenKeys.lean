import SchemaMigration.Proofs.Schema.StructuralFaults

/-!
# `SchemaMigration.Proofs.Schema.BrokenKeys`: foreign keys that refer to nothing

The relation of a column is broken when no table has the name that it asks for, or when the
first table of that name has no such column (`missing?`). The broken relations of a model
are read off its tables in order, and off the columns of each table in order (`brokenKeys`).

The check of foreign keys stops at the first error in strict mode and goes through them all
in lenient mode. Both are the same walk over the broken relations, and the mode only says
what is made of them (`Strictness.report`): all of them as warnings, or the first one as an
error (`validate_of_sound`). So the modes agree (`modes_agree`).

A lenient check would take any error for a warning, one that a table lacks its columns
included. It meets none: the tables that foreign keys lead to are tables of the model, and
those have been found in order before (`checkForeignKey_eq`).
-/

set_option autoImplicit false

namespace SchemaMigration

open SchemaMigration.Outcome

namespace Strictness

/-- What is made of errors: all are warnings, or the first is the error. -/
def report : Strictness → List Error → Except Error (List String)
  | .lenient, errors => .ok (errors.map Error.message)
  | .strict, [] => .ok []
  | .strict, error :: _ => .error error

variable {strictness : Strictness}

@[simp] theorem report_nil : strictness.report [] = .ok [] := by
  cases strictness with
  | strict => rfl
  | lenient => rfl

/-- Errors can be reported one part after the other. -/
theorem report_append (errors more : List Error) :
    strictness.report (errors ++ more) = do
      let warnings ← strictness.report errors
      return warnings ++ (← strictness.report more) := by
  cases strictness with
  | lenient => simp [report, pure, Except.pure]
  | strict =>
    cases errors with
    | nil => cases more <;> rfl
    | cons error errors => rfl

end Strictness

namespace Model

variable {model : Model} {strictness : Strictness} {table : Table} {column : Column}

/-- The first of the tables that have a name. -/
def IsFirstNamed (model : Model) (name : String) (table : Table) : Prop :=
  ∃ before after, model.tables = before ++ table :: after ∧ table.name = name ∧
    ∀ other ∈ before, other.name ≠ name

/-- A foreign key names a table, and a column of the first table of this name. -/
def Refers (model : Model) (key : ForeignKey) : Prop :=
  ∃ target, model.IsFirstNamed key.table.name target ∧
    ∃ column ∈ model.columnsOf target, column.name = key.column.name

theorem tableNamed?_eq_some_iff {name : String} :
    model.tableNamed? name = some table ↔ model.IsFirstNamed name table := by
  rw [tableNamed?, List.find?_eq_some_iff_append, IsFirstNamed]
  simp only [beq_iff_eq, Bool.not_eq_true', beq_eq_false_iff_ne]
  constructor
  · rintro ⟨hname, before, after, hsplit, hbefore⟩
    exact ⟨before, after, hsplit, hname, hbefore⟩
  · rintro ⟨before, after, hsplit, hname, hbefore⟩
    exact ⟨hname, before, after, hsplit, hbefore⟩

theorem refers_iff {key : ForeignKey} :
    model.Refers key ↔ ∃ target, model.tableNamed? key.table.name = some target ∧
      key.column.name ∈ (model.columnsOf target).map (·.name) := by
  simp only [Refers, tableNamed?_eq_some_iff, List.mem_map]

/-- What the relation of a column asks for that is not there: a table, or a column of the first
table of its name. -/
def missing? (model : Model) (column : Column) : Option Unresolved :=
  column.relation?.bind fun key =>
    match model.tableNamed? key.table.name with
    | none => some (.noTable key.table.name)
    | some target =>
      if key.column.name ∈ (model.columnsOf target).map (·.name) then none
      else some (.noColumn target.name key.column.name)

/-- The error of a column whose relation is broken. -/
def brokenKey? (model : Model) (table : Table) (column : Column) : Option Error :=
  (model.missing? column).map (.unresolvedForeignKey table.name column.name)

/-- A relation is broken when its foreign key does not refer to a column. -/
theorem brokenKey?_eq_none_iff :
    model.brokenKey? table column = none ↔
      ∀ key, column.relation? = some key → model.Refers key := by
  rw [brokenKey?, Option.map_eq_none_iff, missing?]
  cases column.relation? with
  | none => simp
  | some key =>
    simp only [Option.bind_some, Option.some.injEq, forall_eq', refers_iff]
    cases model.tableNamed? key.table.name with
    | none => simp
    | some target => simp

/-- The errors of the broken relations, table by table. -/
def brokenKeys (model : Model) : List Error :=
  model.tables.flatMap fun table => (model.columnsOf table).filterMap (model.brokenKey? table)

theorem brokenKeys_eq_nil_iff :
    model.brokenKeys = [] ↔ ∀ table ∈ model.tables, ∀ column ∈ model.columnsOf table,
      ∀ key, column.relation? = some key → model.Refers key := by
  simp only [brokenKeys, List.flatMap_eq_nil_iff, List.filterMap_eq_nil_iff,
    brokenKey?_eq_none_iff]

/-- Where all tables are in order, the check of a foreign key fails when it is broken, and in no
other way. -/
theorem checkForeignKey_eq (hsound : ∀ table ∈ model.tables, model.Sound table) (table : Table)
    (column : Column) :
    model.checkForeignKey table column =
      match model.brokenKey? table column with
      | none => .ok ()
      | some error => .error error := by
  rw [checkForeignKey, brokenKey?, missing?]
  cases column.relation? with
  | none => rfl
  | some key =>
    dsimp only [Option.bind_some]
    cases htarget : model.tableNamed? key.table.name with
    | none => rfl
    | some target =>
      -- The columns of the target are there, since it is one of the tables.
      have hcolumns := columnsFor_of_sound (hsound target (List.mem_of_find?_eq_some htarget))
      dsimp only
      rw [hcolumns, ok_bind]
      by_cases hcolumn : key.column.name ∈ (model.columnsOf target).map (·.name)
      · rw [if_pos hcolumn, if_pos]
        · rfl
        · simpa using hcolumn
      · rw [if_neg hcolumn, if_neg]
        · rfl
        · simpa using hcolumn

theorem checkColumns_eq_report (hsound : ∀ table ∈ model.tables, model.Sound table)
    (columns : List Column) :
    model.checkColumns strictness table columns =
      strictness.report (columns.filterMap (model.brokenKey? table)) := by
  induction columns with
  | nil => simp [checkColumns]
  | cons column rest ih =>
    unfold checkColumns
    rw [checkForeignKey_eq hsound]
    cases hbroken : model.brokenKey? table column with
    | none => rw [List.filterMap_cons_none hbroken, ih]
    | some error =>
      rw [List.filterMap_cons_some hbroken]
      -- The first broken key ends a strict check. A lenient one goes on behind it.
      cases strictness with
      | strict => rfl
      | lenient =>
        dsimp only
        rw [ih]
        rfl

theorem checkForeignKeys_eq_report (hsound : ∀ table ∈ model.tables, model.Sound table)
    {tables : List Table} (htables : ∀ table ∈ tables, model.Sound table) :
    model.checkForeignKeys strictness tables = strictness.report
      (tables.flatMap fun table => (model.columnsOf table).filterMap (model.brokenKey? table)) := by
  induction tables with
  | nil => simp [checkForeignKeys]
  | cons table rest ih =>
    rw [List.forall_mem_cons] at htables
    rw [checkForeignKeys, columnsFor_of_sound htables.1, ok_bind, checkColumns_eq_report hsound,
      ih htables.2, List.flatMap_cons, Strictness.report_append]

/-- A model whose tables are in order is checked for broken relations. -/
theorem validate_of_sound (hsound : ∀ table ∈ model.tables, model.Sound table) :
    model.validate strictness = strictness.report model.brokenKeys := by
  rw [validate, checkTables_eq_ok_iff.2 hsound, ok_bind]
  exact checkForeignKeys_eq_report hsound hsound

/-- A check in lenient mode fails with the first fault, and with nothing else. -/
theorem validate_lenient_eq_error_iff {error : Error} :
    model.validate .lenient = .error error ↔
      ∃ fault, error = .malformedSchema fault ∧ model.FirstFault fault := by
  constructor
  · intro h
    rcases bind_eq_error_iff.1 h with htables | ⟨_, htables, -⟩
    · exact checkTables_eq_error_iff.1 htables
    · rw [validate_of_sound (checkTables_eq_ok_iff.1 htables)] at h
      cases h
  · rintro ⟨fault, rfl, hfault⟩
    exact validate_of_firstFault hfault

/-- A check in lenient mode passes when all tables are in order. The warnings are the messages
of the broken relations. -/
theorem validate_lenient_eq_ok_iff {warnings : List String} :
    model.validate .lenient = .ok warnings ↔
      (∀ table ∈ model.tables, model.Sound table) ∧
        warnings = model.brokenKeys.map Error.message := by
  constructor
  · intro h
    have hsound := sound_of_validate h
    rw [validate_of_sound hsound] at h
    exact ⟨hsound, (Except.ok.inj h).symm⟩
  · rintro ⟨hsound, rfl⟩
    rw [validate_of_sound hsound]
    rfl

/-- A check in strict mode passes when all tables are in order and no relation is broken. It
has no warnings. -/
theorem validate_strict_eq_ok_iff {warnings : List String} :
    model.validate .strict = .ok warnings ↔
      (∀ table ∈ model.tables, model.Sound table) ∧ model.brokenKeys = [] ∧ warnings = [] := by
  constructor
  · intro h
    have hsound := sound_of_validate h
    rw [validate_of_sound hsound] at h
    cases hbroken : model.brokenKeys with
    | nil =>
      rw [hbroken] at h
      exact ⟨hsound, rfl, (Except.ok.inj h).symm⟩
    | cons error rest =>
      rw [hbroken] at h
      cases h
  · rintro ⟨hsound, hbroken, rfl⟩
    rw [validate_of_sound hsound, hbroken]
    rfl

theorem exists_of_mem_brokenKeys {error : Error} (h : error ∈ model.brokenKeys) :
    ∃ table column target, error = .unresolvedForeignKey table column target := by
  obtain ⟨table, -, h⟩ := List.mem_flatMap.1 h
  obtain ⟨column, -, h⟩ := List.mem_filterMap.1 h
  obtain ⟨target, -, rfl⟩ := Option.map_eq_some_iff.1 h
  exact ⟨table.name, column.name, target, rfl⟩

/-- The modes agree. A lenient check fails when a table is not in order, with the fault of the
first such table, and a strict check then fails in the same way. Otherwise a lenient check
warns of each broken relation, table by table and column by column. A strict check passes,
without warnings, when there is none, and else fails with the error that the first warning is
the message of. -/
theorem modes_agree (model : Model) :
    ((∃ error, model.validate .lenient = .error error) ↔
        ∃ table ∈ model.tables, ¬ model.Sound table) ∧
      (∀ error, model.validate .lenient = .error error →
        model.validate .strict = .error error ∧
          ∃ fault, error = .malformedSchema fault ∧ model.FirstFault fault) ∧
      (∀ table column, model.brokenKey? table column = none ↔
        ∀ key, column.relation? = some key → model.Refers key) ∧
      ∀ warnings, model.validate .lenient = .ok warnings →
        warnings = model.brokenKeys.map Error.message ∧
          (model.validate .strict = .ok [] ↔ warnings = []) ∧
          ∀ first rest, warnings = first :: rest → ∃ table column target,
            model.validate .strict = .error (.unresolvedForeignKey table column target) ∧
              (Error.unresolvedForeignKey table column target).message = first := by
  refine ⟨?_, fun error herror => ?_, fun _ _ => brokenKey?_eq_none_iff,
    fun warnings hwarnings => ?_⟩
  · rw [← exists_firstFault_iff]
    constructor
    · rintro ⟨error, herror⟩
      obtain ⟨fault, -, hfault⟩ := validate_lenient_eq_error_iff.1 herror
      exact ⟨fault, hfault⟩
    · rintro ⟨fault, hfault⟩
      exact ⟨_, validate_of_firstFault hfault⟩
  · obtain ⟨fault, rfl, hfault⟩ := validate_lenient_eq_error_iff.1 herror
    exact ⟨validate_of_firstFault hfault, fault, rfl, hfault⟩
  · -- Both modes report the same broken keys, one as an error and the other as warnings.
    obtain ⟨hsound, rfl⟩ := validate_lenient_eq_ok_iff.1 hwarnings
    rw [validate_of_sound hsound]
    refine ⟨rfl, ?_, fun first rest hcons => ?_⟩
    · cases model.brokenKeys with
      | nil => simp
      | cons error errors => simp [Strictness.report]
    · cases hbroken : model.brokenKeys with
      | nil => simp [hbroken] at hcons
      | cons error errors =>
        obtain ⟨table, column, target, rfl⟩ :=
          exists_of_mem_brokenKeys (hbroken ▸ List.mem_cons_self)
        rw [hbroken, List.map_cons] at hcons
        exact ⟨table, column, target, rfl, (List.cons.inj hcons).1⟩

/-- A table `posts` whose columns ask for a table that is not there and for a column that the
table `users` does not have. -/
def strayKeys : Model where
  tables := [{ id := .number 2, name := "posts" }, { id := .text "u", name := "users" }]
  columns := .ofList [
    ("2", [.increments "id", .foreign "author_id" "authors" "id",
      .foreign "editor_id" "users" "key"]),
    ("u", [.increments "id"])]

/-- The two broken relations are warnings in lenient mode, and the first is the error in strict
mode. -/
theorem modes_agree_strayKeys :
    strayKeys.validate .lenient = .ok [
        "Unresolved foreign key on 'posts.author_id': no table named 'authors'",
        "Unresolved foreign key on 'posts.editor_id': table 'users' has no column 'key'"] ∧
      ∃ table column target,
        strayKeys.validate .strict = .error (.unresolvedForeignKey table column target) ∧
          (Error.unresolvedForeignKey table column target).message =
            "Unresolved foreign key on 'posts.author_id': no table named 'authors'" := by
  have hlenient : strayKeys.validate .lenient = .ok [
      "Unresolved foreign key on 'posts.author_id': no table named 'authors'",
      "Unresolved foreign key on 'posts.editor_id': table 'users' has no column 'key'"] :=
    eq_ok_of_toOption (by decide)
  obtain ⟨-, -, -, hagree⟩ := modes_agree strayKeys
  obtain ⟨-, -, hfirst⟩ := hagree _ hlenient
  exact ⟨hlenient, hfirst _ _ rfl⟩

end Model

end SchemaMigration
