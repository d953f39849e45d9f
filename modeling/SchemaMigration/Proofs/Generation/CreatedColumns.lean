import SchemaMigration.Proofs.Generation.Resolution
import SchemaMigration.Proofs.Migration.TableReading

/-!
# `SchemaMigration.Proofs.Generation.CreatedColumns`: the columns that a migration creates

A run makes one file for each table. `CreatedWith` says of a list of files that exactly one
of them creates the table, and which statements are read off its text. There is only one
such list of statements (`CreatedWith.unique`). For the files of a run it is the list made
of the table and its columns (`createdWith_of_generate`).

The statements create the columns that are declared, and those that the flags of the table
add. The check sees to it that no declared name comes twice, but it does not look at the
flags. So a name comes twice in the migration when a declared column has the name of one
that a flag adds, and only then (`created_columns`).
-/

set_option autoImplicit false

namespace SchemaMigration.Generator

open SchemaMigration.Calendar

variable {config : Config} {now : Moment} {schema : Schema} {model : Model}
  {warnings : List String} {table : Table}

/-! ### The statements of a table -/

/-- Exactly one of the files creates the table, and these are the statements of its text. -/
def CreatedWith (files : List Artifact) (table : String) (found : List TableStatement) : Prop :=
  ∃ front made back, files = front ++ made :: back ∧
    (∃ lines, made.CreatesTable table lines) ∧
    Assembler.readTable table made.content.toList = some found ∧
    ∀ other ∈ front ++ back, ∀ lines, ¬ other.CreatesTable table lines

/-- The files determine the statements. -/
theorem CreatedWith.unique {files : List Artifact} {table : String}
    {found found' : List TableStatement} (h : CreatedWith files table found)
    (h' : CreatedWith files table found') : found = found' := by
  obtain ⟨front, made, back, hfiles, -, hread, hothers⟩ := h
  obtain ⟨front', made', back', hfiles', ⟨lines, hcreates⟩, hread', -⟩ := h'
  have hmem : made' ∈ front ++ made :: back := by
    rw [← hfiles, hfiles']
    simp
  -- The file that creates the table is the one that does so.
  have hmade : made' = made := by
    rcases List.mem_append.1 hmem with hfront | hback
    · exact absurd hcreates (hothers made' (List.mem_append_left _ hfront) lines)
    · rcases List.mem_cons.1 hback with hsame | hback
      · exact hsame
      · exact absurd hcreates (hothers made' (List.mem_append_right _ hback) lines)
  rw [hmade, hread] at hread'
  exact Option.some.inj hread'

/-- A run creates every table in exactly one of its files. -/
theorem exists_createsTable_of_generate {output : Collection}
    (h : generate config now schema = .ok output) (htable : table ∈ schema.tables) :
    ∃ front made back, output.files = front ++ made :: back ∧
      made.CreatesTable table.name (bodyOf schema.toModel table) ∧
      ∀ other ∈ front ++ back, ∀ lines, ¬ other.CreatesTable table.name lines := by
  obtain ⟨haccepted, -, assembler, tableFiles, relationFiles, hassembler, hproduced⟩ :=
    produced_of_generate h rfl
  have hstubs := Assembler.hasStubs_of_ofExtension hassembler
  obtain ⟨_, hmodel⟩ := validate_of_generate h
  obtain ⟨front, made, back, hsplit, hmade, hothers⟩ :=
    exists_migration_of_mem hproduced.tables haccepted.nodup_tables htable
  refine ⟨front, made, back ++ relationFiles ++ [.snapshot schema.snapshot], ?_,
    hmade.createsTable hstubs, ?_⟩
  · rw [hproduced.artifacts_eq, hsplit]
    simp
  · -- The other files of tables are those of other names, and the rest are no files of tables.
    intro file hfile lines hfound
    simp only [List.mem_append, List.mem_singleton] at hfile
    have hmigration : file ∈ front ++ back → False := by
      intro hmem
      obtain ⟨other, hother, hne, hmigration⟩ := hothers file hmem
      exact hne (hmigration.name_eq hstubs (Model.isName_of_validate hmodel hother)
        (Model.isName_of_validate hmodel htable) hfound).symm
    rcases hfile with hfile | (hfile | hfile) | rfl
    · exact hmigration (List.mem_append_left _ hfile)
    · exact hmigration (List.mem_append_right _ hfile)
    · have hkind := hproduced.kind_of_relations file hfile
      rw [hfound.1] at hkind
      cases hkind
    · cases hfound.1

/-- A run creates every table with the statements of its columns and of its flags. -/
theorem createdWith_of_generate {output : Collection} (h : generate config now schema = .ok output)
    (htable : table ∈ schema.tables) :
    CreatedWith output.files table.name
      (TableStatement.ofTable table (schema.toModel.columnsOf table)) := by
  obtain ⟨front, made, back, hfiles, hcreates, hothers⟩ :=
    exists_createsTable_of_generate h htable
  refine ⟨front, made, back, hfiles, ⟨_, hcreates⟩, ?_, hothers⟩
  rw [hcreates.2]
  exact Assembler.readTable_tableText table _

/-- A run creates a table with the statements of some columns when those of its own columns are
the same. -/
theorem createdWith_iff {output : Collection} (h : generate config now schema = .ok output)
    (htable : table ∈ schema.tables) {columns : List Column} :
    CreatedWith output.files table.name (TableStatement.ofTable table columns) ↔
      columns.map Column.statement =
        (schema.toModel.columnsOf table).map Column.statement := by
  have hcreated := createdWith_of_generate h htable
  rw [← TableStatement.ofTable_inj_iff]
  exact ⟨fun hcolumns => hcolumns.unique hcreated, fun heq => heq ▸ hcreated⟩

/-! ### The names of the columns -/

theorem nodup_flagColumns (table : Table) : table.flagColumns.Nodup := by
  rw [Table.flagColumns]
  cases table.timestamps <;> cases table.softDelete <;> decide

/-- A name comes twice in a table of an accepted model only when a column has it that a flag adds
too. -/
theorem Accepted.nodup_created_iff (h : Accepted config model) (htable : table ∈ model.tables) :
    ((model.columnsOf table).map (·.name) ++ table.flagColumns).Nodup ↔
      ∀ column ∈ model.columnsOf table, column.name ∉ table.flagColumns := by
  rw [List.nodup_append]
  constructor
  · intro ⟨_, _, hapart⟩ column hcolumn hflag
    exact hapart _ (List.mem_map_of_mem hcolumn) _ hflag rfl
  · intro hfree
    refine ⟨h.nodup_columnsOf htable, nodup_flagColumns table, ?_⟩
    rintro name hname flag hflag rfl
    obtain ⟨column, hcolumn, rfl⟩ := List.mem_map.1 hname
    exact hfree column hcolumn hflag

/-- The migration of a table of an accepted schema creates the declared columns and those that the
flags of the table add, in this order. No two of them have one name if and only if no declared
column has the name of one that a flag adds. -/
theorem created_columns (hcheck : check config schema.toModel = .ok warnings)
    (htable : table ∈ schema.tables) :
    (∀ now output, generate config now schema = .ok output →
      ∃ found, CreatedWith output.files table.name found ∧
        found.flatMap TableStatement.names =
          (schema.toModel.columnsOf table).map (·.name) ++ table.flagColumns) ∧
      (((schema.toModel.columnsOf table).map (·.name) ++ table.flagColumns).Nodup ↔
        ∀ column ∈ schema.toModel.columnsOf table, column.name ∉ table.flagColumns) := by
  refine ⟨fun now output houtput => ?_, (accepted_of_check hcheck).nodup_created_iff htable⟩
  exact ⟨_, createdWith_of_generate houtput htable, TableStatement.names_ofTable table _⟩

/-- A table with time stamps that declares one of their columns itself. -/
def stampedUsers : Table := { id := .number 1, name := "users", timestamps := true }

/-- The schema of this table alone. -/
def stampedSchema : Schema where
  tables := [stampedUsers]
  columns := .ofList [("1", [.increments "id", { name := "created_at", type := .dateTime }])]

theorem check_stampedSchema : check fixedTime stampedSchema.toModel = .ok [] :=
  check_fixedTime_of_folded (by decide) (by decide)

theorem exists_generate_stampedSchema :
    ∃ output, generate fixedTime firstMoment stampedSchema = .ok output :=
  exists_generate_fixedTime check_stampedSchema (by decide)

/-- The names that the columns of this table have. -/
theorem names_stampedUsers :
    (stampedSchema.toModel.columnsOf stampedUsers).map (·.name) ++ stampedUsers.flagColumns =
      ["id", "created_at", "created_at", "updated_at"] := by
  decide

/-- The migration of a table with time stamps creates the declared columns, then both stamps. -/
theorem created_columns_stampedUsers :
    check fixedTime stampedSchema.toModel = .ok [] ∧ stampedUsers ∈ stampedSchema.tables ∧
      ∃ output found, generate fixedTime firstMoment stampedSchema = .ok output ∧
        CreatedWith output.files "users" found ∧
        found.flatMap TableStatement.names = ["id", "created_at", "created_at", "updated_at"] := by
  have htable : stampedUsers ∈ stampedSchema.tables := List.mem_singleton_self _
  obtain ⟨output, houtput⟩ := exists_generate_stampedSchema
  obtain ⟨hcreated, -⟩ := created_columns check_stampedSchema htable
  obtain ⟨found, hfound, hnames⟩ := hcreated _ _ houtput
  exact ⟨check_stampedSchema, htable, output, found, houtput, hfound,
    hnames.trans names_stampedUsers⟩

/-- The migration of an accepted table may create two columns of one name. -/
theorem not_nodup_created_stampedUsers :
    check fixedTime stampedSchema.toModel = .ok [] ∧
      ∃ output found, generate fixedTime firstMoment stampedSchema = .ok output ∧
        CreatedWith output.files stampedUsers.name found ∧
        ¬ (found.flatMap TableStatement.names).Nodup := by
  obtain ⟨output, houtput⟩ := exists_generate_stampedSchema
  refine ⟨check_stampedSchema, output, _, houtput,
    createdWith_of_generate houtput (List.mem_singleton_self _), ?_⟩
  rw [TableStatement.names_ofTable, names_stampedUsers]
  decide

end SchemaMigration.Generator
