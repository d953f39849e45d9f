import SchemaMigration.Proofs.Outcome
import SchemaMigration.Proofs.Schema.Relations
import SchemaMigration.Proofs.Text.Literal
import SchemaMigration.Schema.Validation

/-!
# `SchemaMigration.Proofs.Schema.StructuralFaults`: tables that are in order

A table is in order (`Sound`) when its name is one, a group of columns is there for it, and
each column has a name of its own. That is read off the table and its group alone: other
tables have no part in it, and neither have foreign keys.

A table that is not in order has a fault (`HasFault`). It is looked for in the name, then in
the group and then in the columns, one after the other. The check of a table passes those
in order (`checkTable_eq_ok_iff`) and reports the fault of any other
(`checkTable_eq_error_iff`).

All tables are checked before the first foreign key is. So the check of a model fails at the
first table that is not in order, in either mode and whatever the foreign keys before it
refer to (`validate_of_firstFault`).
-/

set_option autoImplicit false

namespace SchemaMigration

open SchemaMigration.Outcome
open SchemaMigration.Text (SpellsName isName_iff)

/-! ### Columns -/

/-- Columns that all have a name, and each its own. -/
def NamedApart (columns : List Column) : Prop :=
  (∀ column ∈ columns, column.name ≠ "") ∧ (columns.map (·.name)).Nodup

/-- What is wrong with a column that comes behind others. -/
inductive ColumnFault (table : Table) (earlier : List Column) (column : Column) :
    SchemaFault → Prop where
  | unnamed (hname : column.name = "") :
    ColumnFault table earlier column (.unnamedColumn table.name)
  | repeated (hname : column.name ≠ "") (hearlier : column.name ∈ earlier.map (·.name)) :
    ColumnFault table earlier column (.repeatedColumn table.name column.name)

theorem namedApart_nil : NamedApart [] :=
  ⟨by simp, .nil⟩

theorem namedApart_append {columns more : List Column} :
    NamedApart (columns ++ more) ↔ NamedApart columns ∧ NamedApart more ∧
      ∀ column ∈ more, column.name ∉ columns.map (·.name) := by
  simp only [NamedApart, List.forall_mem_append, List.map_append, List.nodup_append]
  constructor
  · rintro ⟨⟨hcolumns, hmore⟩, hnodup, hnodupMore, hapart⟩
    exact ⟨⟨hcolumns, hnodup⟩, ⟨hmore, hnodupMore⟩, fun column hcolumn hmem =>
      hapart _ hmem _ (List.mem_map_of_mem hcolumn) rfl⟩
  · rintro ⟨⟨hcolumns, hnodup⟩, ⟨hmore, hnodupMore⟩, hapart⟩
    refine ⟨⟨hcolumns, hmore⟩, hnodup, hnodupMore, ?_⟩
    rintro name hname other hother rfl
    obtain ⟨column, hcolumn, rfl⟩ := List.mem_map.1 hother
    exact hapart column hcolumn hname

theorem namedApart_singleton {column : Column} : NamedApart [column] ↔ column.name ≠ "" := by
  simp [NamedApart]

theorem namedApart_concat {columns : List Column} {column : Column} :
    NamedApart (columns ++ [column]) ↔
      NamedApart columns ∧ column.name ≠ "" ∧ column.name ∉ columns.map (·.name) := by
  rw [namedApart_append, namedApart_singleton, List.forall_mem_singleton]

/-- A column at fault is not in order behind the others. -/
theorem ColumnFault.not_namedApart {table : Table} {earlier after : List Column} {column : Column}
    {fault : SchemaFault} (h : ColumnFault table earlier column fault) :
    ¬ NamedApart (earlier ++ column :: after) := by
  intro hapart
  rw [List.append_cons, namedApart_append, namedApart_concat] at hapart
  obtain ⟨⟨-, hname, hnew⟩, -, -⟩ := hapart
  cases h with
  | unnamed hempty => exact hname hempty
  | repeated _ hearlier => exact hnew hearlier

namespace Table

variable {table : Table} {before columns : List Column}

/-- The check of columns behind others passes over those that are in order. -/
theorem checkColumnNames_append {front rest : List Column} (h : NamedApart (before ++ front)) :
    table.checkColumnNames (before.map (·.name)).reverse (front ++ rest) =
      table.checkColumnNames ((before ++ front).map (·.name)).reverse rest := by
  induction front generalizing before with
  | nil => rw [List.append_nil, List.nil_append]
  | cons column front ih =>
    rw [List.append_cons] at h ⊢
    obtain ⟨-, hname, hnew⟩ := namedApart_concat.1 (namedApart_append.1 h).1
    rw [← ih h, List.cons_append, checkColumnNames, if_neg hname,
      if_neg (mt List.mem_reverse.1 hnew), List.map_append, List.map_singleton,
      List.reverse_append, List.reverse_singleton, List.singleton_append]

/-- The check of columns behind others ends at the first that is not in order, and finds what is
wrong with it. -/
theorem checkColumnNames_cases (hbefore : NamedApart before) :
    table.checkColumnNames (before.map (·.name)).reverse columns = .ok () ∧
        NamedApart (before ++ columns) ∨
      ∃ front column after fault, columns = front ++ column :: after ∧
        NamedApart (before ++ front) ∧ ColumnFault table (before ++ front) column fault ∧
        table.checkColumnNames (before.map (·.name)).reverse columns = .error fault := by
  induction columns generalizing before with
  | nil => exact .inl ⟨rfl, by rwa [List.append_nil]⟩
  | cons column rest ih =>
    rw [checkColumnNames]
    by_cases hname : column.name = ""
    · rw [if_pos hname]
      exact .inr ⟨[], column, rest, _, rfl, by rwa [List.append_nil], .unnamed hname, rfl⟩
    by_cases hseen : column.name ∈ before.map (·.name)
    · rw [if_neg hname, if_pos (List.mem_reverse.2 hseen)]
      exact .inr ⟨[], column, rest, _, rfl, by rwa [List.append_nil],
        .repeated hname (by rwa [List.append_nil]), rfl⟩
    -- The rest is checked with `column` among those before.
    have hmore := ih (namedApart_concat.2 ⟨hbefore, hname, hseen⟩)
    rw [List.map_append, List.map_singleton, List.reverse_append, List.reverse_singleton,
      List.singleton_append] at hmore
    simp only [List.append_assoc, List.singleton_append] at hmore
    rw [if_neg hname, if_neg (mt List.mem_reverse.1 hseen)]
    rcases hmore with hpassed | ⟨front, found, after, fault, rfl, hfront, hfault, hresult⟩
    · exact .inl hpassed
    · exact .inr ⟨column :: front, found, after, fault, rfl, hfront, hfault, hresult⟩

/-- The check of columns passes when each of them has a name of its own. -/
theorem checkColumnNames_eq_ok_iff :
    table.checkColumnNames [] columns = .ok () ↔ NamedApart columns := by
  rcases @checkColumnNames_cases table [] columns namedApart_nil with
    ⟨hpassed, hapart⟩ | ⟨front, column, after, fault, rfl, -, hfault, hresult⟩
  · exact ⟨fun _ => hapart, fun _ => hpassed⟩
  · constructor
    · intro hpassed
      rw [List.map_nil, List.reverse_nil, hpassed] at hresult
      cases hresult
    · exact fun hapart => absurd hapart hfault.not_namedApart

/-- It fails with what is wrong with the first column that is not in order. -/
theorem checkColumnNames_eq_error_iff {fault : SchemaFault} :
    table.checkColumnNames [] columns = .error fault ↔
      ∃ front column after, columns = front ++ column :: after ∧ NamedApart front ∧
        ColumnFault table front column fault := by
  constructor
  · intro h
    -- The columns pass up to the first one with a fault, if there is one.
    rcases @checkColumnNames_cases table [] columns namedApart_nil with
      ⟨hpassed, -⟩ | ⟨front, column, after, found, hsplit, hfront, hfault, hresult⟩
    · rw [List.map_nil, List.reverse_nil, h] at hpassed
      cases hpassed
    · rw [List.map_nil, List.reverse_nil, h] at hresult
      obtain rfl := Except.error.inj hresult
      exact ⟨front, column, after, hsplit, hfront, hfault⟩
  · rintro ⟨front, column, after, rfl, hfront, hfault⟩
    have hpassed := @checkColumnNames_append table [] front (column :: after) hfront
    rw [List.map_nil, List.reverse_nil, List.nil_append] at hpassed
    rw [hpassed, checkColumnNames]
    cases hfault with
    | unnamed hname => rw [if_pos hname]
    | repeated hname hearlier => rw [if_neg hname, if_pos (List.mem_reverse.2 hearlier)]

end Table

/-! ### Tables -/

namespace Model

variable {model : Model} {table : Table} {fault : SchemaFault}

/-- A table that is in order. -/
structure Sound (model : Model) (table : Table) : Prop where
  spellsName : SpellsName table.name
  /-- It has a group of columns. -/
  group : ∃ columns, model.columns.get? table.id.key = some columns
  namedApart : NamedApart (model.columnsOf table)

theorem columnsFor_of_sound (h : model.Sound table) :
    model.columnsFor table = .ok (model.columnsOf table) := by
  obtain ⟨columns, hgroup⟩ := h.group
  rw [columnsOf_of_columnsFor (columnsFor_eq_ok_iff.2 hgroup), columnsFor_eq_ok_iff.2 hgroup]

/-- What is wrong with a table: its name, else its group, else the first of the columns that
are not in order. -/
inductive HasFault (model : Model) (table : Table) : SchemaFault → Prop where
  | unnamed (hname : table.name = "") : HasFault model table (.unnamedTable table.id)
  | badName (hname : table.name ≠ "") (hspelt : ¬ SpellsName table.name) :
    HasFault model table (.badTableName table.name)
  | noColumns (hspelt : SpellsName table.name)
      (hgroup : model.columns.get? table.id.key = none) :
    HasFault model table (.noColumns table.name table.id)
  | column {before after : List Column} {column : Column} {fault : SchemaFault}
      (hspelt : SpellsName table.name)
      (hgroup : model.columns.get? table.id.key = some (before ++ column :: after))
      (hbefore : NamedApart before) (hfault : ColumnFault table before column fault) :
    HasFault model table fault

/-- The check of a name tells the names from all other texts. -/
theorem checkName_eq_ok_iff : table.checkName = .ok () ↔ SpellsName table.name := by
  unfold Table.checkName
  rw [← isName_iff]
  split
  · next hname =>
    rw [hname]
    exact ⟨nofun, fun hspelt => absurd hspelt (by decide)⟩
  · split
    · next hspelt => exact ⟨fun _ => hspelt, fun _ => rfl⟩
    · next hspelt => exact ⟨nofun, fun h => absurd h hspelt⟩

theorem checkName_eq_error_iff :
    table.checkName = .error fault ↔
      table.name = "" ∧ fault = .unnamedTable table.id ∨
        table.name ≠ "" ∧ ¬ SpellsName table.name ∧ fault = .badTableName table.name := by
  unfold Table.checkName
  rw [← isName_iff]
  split
  · next hname =>
    simp only [hname, Except.error.injEq, true_and, ne_eq, not_true, false_and, or_false]
    exact eq_comm
  · next hname =>
    split
    · next hspelt => simp [hname, hspelt]
    · next hspelt =>
      simp only [hname, hspelt, Except.error.injEq, ne_eq, Bool.false_eq_true, not_false_eq_true,
        true_and, false_and, false_or]
      exact eq_comm

theorem columnsFor_eq_error_iff {error : Error} :
    model.columnsFor table = .error error ↔ model.columns.get? table.id.key = none ∧
      error = .malformedSchema (.noColumns table.name table.id) := by
  unfold columnsFor
  split
  · next hgroup => simp [hgroup]
  · next hgroup =>
    simp only [hgroup, Except.error.injEq, true_and]
    exact eq_comm

theorem checkTable_eq_ok_iff : model.checkTable table = .ok () ↔ model.Sound table := by
  constructor
  · intro h
    obtain ⟨_, hname, h⟩ := bind_eq_ok_iff.1 h
    obtain ⟨columns, hcolumns, h⟩ := bind_eq_ok_iff.1 h
    rw [mapError_eq_ok_iff] at hname h
    exact ⟨checkName_eq_ok_iff.1 hname, ⟨columns, columnsFor_eq_ok_iff.1 hcolumns⟩,
      columnsOf_of_columnsFor hcolumns ▸ Table.checkColumnNames_eq_ok_iff.1 h⟩
  · rintro ⟨hspelt, ⟨columns, hgroup⟩, hapart⟩
    have hcolumns := columnsFor_eq_ok_iff.2 hgroup
    rw [columnsOf_of_columnsFor hcolumns] at hapart
    rw [checkTable, checkName_eq_ok_iff.2 hspelt, hcolumns]
    exact mapError_eq_ok_iff.2 (Table.checkColumnNames_eq_ok_iff.2 hapart)

/-- The check of a table that is not in order reports its fault. -/
theorem checkTable_eq_error_iff {error : Error} :
    model.checkTable table = .error error ↔
      ∃ fault, error = .malformedSchema fault ∧ model.HasFault table fault := by
  constructor
  · intro h
    rcases bind_eq_error_iff.1 h with h | ⟨_, hname, h⟩
    · obtain ⟨fault, hfault, rfl⟩ := mapError_eq_error_iff.1 h
      rcases checkName_eq_error_iff.1 hfault with ⟨hname, rfl⟩ | ⟨hname, hspelt, rfl⟩
      · exact ⟨_, rfl, .unnamed hname⟩
      · exact ⟨_, rfl, .badName hname hspelt⟩
    have hspelt := checkName_eq_ok_iff.1 (mapError_eq_ok_iff.1 hname)
    rcases bind_eq_error_iff.1 h with h | ⟨columns, hcolumns, h⟩
    · obtain ⟨hgroup, rfl⟩ := columnsFor_eq_error_iff.1 h
      exact ⟨_, rfl, .noColumns hspelt hgroup⟩
    · obtain ⟨fault, hfault, rfl⟩ := mapError_eq_error_iff.1 h
      obtain ⟨before, column, after, rfl, hbefore, hfault⟩ :=
        Table.checkColumnNames_eq_error_iff.1 hfault
      exact ⟨_, rfl, .column hspelt (columnsFor_eq_ok_iff.1 hcolumns) hbefore hfault⟩
  · -- Each fault is found by its own step, and the steps before it have passed.
    rintro ⟨fault, rfl, hfault⟩
    refine bind_eq_error_iff.2 ?_
    cases hfault with
    | unnamed hname =>
      exact .inl (mapError_eq_error_iff.2 ⟨_, checkName_eq_error_iff.2 (.inl ⟨hname, rfl⟩), rfl⟩)
    | badName hname hspelt =>
      exact .inl (mapError_eq_error_iff.2
        ⟨_, checkName_eq_error_iff.2 (.inr ⟨hname, hspelt, rfl⟩), rfl⟩)
    | noColumns hspelt hgroup =>
      exact .inr ⟨(), mapError_eq_ok_iff.2 (checkName_eq_ok_iff.2 hspelt),
        bind_eq_error_iff.2 (.inl (columnsFor_eq_error_iff.2 ⟨hgroup, rfl⟩))⟩
    | column hspelt hgroup hbefore hfault =>
      exact .inr ⟨(), mapError_eq_ok_iff.2 (checkName_eq_ok_iff.2 hspelt), bind_eq_error_iff.2
        (.inr ⟨_, columnsFor_eq_ok_iff.2 hgroup, mapError_eq_error_iff.2
          ⟨_, Table.checkColumnNames_eq_error_iff.2 ⟨_, _, _, rfl, hbefore, hfault⟩, rfl⟩⟩)⟩

/-- A table is in order or has a fault, and not both. -/
theorem sound_iff_not_hasFault : model.Sound table ↔ ∀ fault, ¬ model.HasFault table fault := by
  rw [← checkTable_eq_ok_iff]
  constructor
  · intro hok fault hfault
    rw [checkTable_eq_error_iff.2 ⟨fault, rfl, hfault⟩] at hok
    cases hok
  · intro hnone
    cases hcheck : model.checkTable table with
    | ok _ => rfl
    | error error =>
      obtain ⟨fault, -, hfault⟩ := checkTable_eq_error_iff.1 hcheck
      exact absurd hfault (hnone fault)

/-! ### Models -/

/-- The fault of the first table that is not in order. -/
def FirstFault (model : Model) (fault : SchemaFault) : Prop :=
  ∃ before table after, model.tables = before ++ table :: after ∧
    (∀ other ∈ before, model.Sound other) ∧ model.HasFault table fault

variable {strictness : Strictness}

theorem checkTables_eq_ok_iff :
    model.tables.forM model.checkTable = .ok () ↔ ∀ table ∈ model.tables, model.Sound table := by
  simp only [forM_eq_ok_iff, checkTable_eq_ok_iff]

theorem checkTables_eq_error_iff {error : Error} :
    model.tables.forM model.checkTable = .error error ↔
      ∃ fault, error = .malformedSchema fault ∧ model.FirstFault fault := by
  simp only [forM_eq_error_iff, checkTable_eq_ok_iff, checkTable_eq_error_iff, FirstFault]
  constructor
  · rintro ⟨before, table, after, hsplit, hbefore, fault, rfl, hfault⟩
    exact ⟨fault, rfl, before, table, after, hsplit, hbefore, hfault⟩
  · rintro ⟨fault, rfl, before, table, after, hsplit, hbefore, hfault⟩
    exact ⟨before, table, after, hsplit, hbefore, fault, rfl, hfault⟩

/-- Some table is the first that is not in order, unless all are. -/
theorem exists_firstFault_iff :
    (∃ fault, model.FirstFault fault) ↔ ∃ table ∈ model.tables, ¬ model.Sound table := by
  constructor
  · rintro ⟨fault, before, table, after, hsplit, -, hfault⟩
    exact ⟨table, by simp [hsplit], fun hsound => sound_iff_not_hasFault.1 hsound fault hfault⟩
  · rintro ⟨table, htable, hfaulty⟩
    cases hcheck : model.tables.forM model.checkTable with
    | ok _ => exact absurd (checkTables_eq_ok_iff.1 hcheck table htable) hfaulty
    | error error =>
      obtain ⟨fault, -, hfirst⟩ := checkTables_eq_error_iff.1 hcheck
      exact ⟨fault, hfirst⟩

/-- The tables of a model that passes are in order. -/
theorem sound_of_validate {warnings : List String} (h : model.validate strictness = .ok warnings) :
    ∀ table ∈ model.tables, model.Sound table := by
  obtain ⟨_, htables, -⟩ := bind_eq_ok_iff.1 h
  exact checkTables_eq_ok_iff.1 htables

/-- A model with a fault fails with the first, whatever its foreign keys are. -/
theorem validate_of_firstFault (h : model.FirstFault fault) :
    model.validate strictness = .error (.malformedSchema fault) := by
  rw [validate, checkTables_eq_error_iff.2 ⟨fault, rfl, h⟩]
  rfl

end Model

end SchemaMigration
