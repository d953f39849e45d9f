import SchemaMigration.Proofs.Schema.BrokenKeys

/-!
# `SchemaMigration.Proofs.Schema.ResolvedKeys`: foreign keys that refer to something

A foreign key names a table and a column. In strict mode none is broken, so every relation
of a model ends at a column of one of its tables (`hasColumn_target`). It starts at one in
any case, since relations are read off columns.

Only the names of a relation are looked at. A table may refer to itself, to a later
table or to one whose identifier has the same text as its own.
-/

set_option autoImplicit false

namespace SchemaMigration.Model

variable {model : Model} {warnings : List String}

/-- A table of this name has a column of this name. -/
def HasColumn (model : Model) (table column : String) : Prop :=
  ∃ t ∈ model.tables, t.name = table ∧ ∃ c ∈ model.columnsOf t, c.name = column

theorem hasColumn_of_mem {table : Table} {column : Column} (htable : table ∈ model.tables)
    (hcolumn : column ∈ model.columnsOf table) : model.HasColumn table.name column.name :=
  ⟨table, htable, rfl, column, hcolumn, rfl⟩

/-- A foreign key that refers to a column names one. -/
theorem Refers.hasColumn {key : ForeignKey} (h : model.Refers key) :
    model.HasColumn key.table.name key.column.name := by
  obtain ⟨target, ⟨before, after, hsplit, hname, -⟩, found, hfound, hcolumn⟩ := h
  exact ⟨target, by simp [hsplit], hname, found, hfound, hcolumn⟩

/-! ### Relations -/

/-- A relation of a model is the foreign key of a column of one of its tables. -/
theorem exists_key_of_mem_relations {r : Relation} (h : r ∈ model.relations) :
    ∃ table ∈ model.tables, ∃ column ∈ model.columnsOf table, ∃ key,
      column.relation? = some key ∧
        r = ⟨table.name, column.name, key.table.name, key.column.name⟩ := by
  obtain ⟨table, htable, h⟩ := List.mem_flatMap.1 h
  obtain ⟨column, hcolumn, h⟩ := List.mem_filterMap.1 h
  obtain ⟨key, hkey, rfl⟩ := Option.map_eq_some_iff.1 h
  exact ⟨table, htable, column, hcolumn, key, hkey, rfl⟩

/-- A relation starts at a column. -/
theorem hasColumn_source {r : Relation} (h : r ∈ model.relations) :
    model.HasColumn r.table r.column := by
  obtain ⟨table, htable, column, hcolumn, key, -, rfl⟩ := exists_key_of_mem_relations h
  exact hasColumn_of_mem htable hcolumn

/-- In strict mode a relation ends at a column. -/
theorem hasColumn_target (hmodel : model.validate .strict = .ok warnings) {r : Relation}
    (h : r ∈ model.relations) : model.HasColumn r.targetTable r.targetColumn := by
  obtain ⟨table, htable, column, hcolumn, key, hkey, rfl⟩ := exists_key_of_mem_relations h
  obtain ⟨-, hbroken, -⟩ := validate_strict_eq_ok_iff.1 hmodel
  exact (brokenKeys_eq_nil_iff.1 hbroken table htable column hcolumn key hkey).hasColumn

/-- The tables of a model that passes are called by names. -/
theorem isName_of_validate {strictness : Strictness}
    (h : model.validate strictness = .ok warnings) {table : Table}
    (htable : table ∈ model.tables) : Text.isName table.name = true :=
  Text.isName_iff.2 (sound_of_validate h table htable).spellsName

end SchemaMigration.Model
