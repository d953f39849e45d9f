import SchemaMigration.Proofs.Generation.Output
import SchemaMigration.Proofs.Migration.ApplyStatements
import SchemaMigration.Proofs.Schema.ResolvedKeys

/-!
# `SchemaMigration.Proofs.Generation.Resolution`: foreign keys refer to what has been created

Migrations are run in the order in which they were made. So a statement that adds a
foreign key finds both of its columns when the table of each has been created before,
with a statement for the column. `relations_resolve` says that this is so, for every
statement of the migration of relations, and that no other migration creates either
table.

The statement is about texts. What a migration creates is read off its content
(`CreatesTable`), and what is added is read off the lines that add it
(`RelationBlocks.Applies`). Neither says which table of the schema a file was made for.
That comes from the run: its files belong to the tables one by one, the names of tables
are distinct and have no quotes, so a text creates one table only.
-/

set_option autoImplicit false

namespace SchemaMigration

open SchemaMigration.Calendar
open SchemaMigration.Outcome

/-- The file is a migration that creates a table, with these lines as its body. -/
def Artifact.CreatesTable (file : Artifact) (table : String) (lines : List String) : Prop :=
  file.kind = .table ∧ file.content = Assembler.tableText table lines

namespace Generator

/-- Among the first files there is exactly one that creates the table, and none of the rest does.
Its body has the statement of a column of this name. -/
def CreatedOnce (before rest : List Artifact) (table column : String) : Prop :=
  ∃ front made back lines,
    before = front ++ made :: back ∧ made.CreatesTable table lines ∧
    (∃ c : Column, c.name = column ∧ Assembler.statementIndent ++ c.statement ∈ lines) ∧
    ∀ other ∈ front ++ back ++ rest, ∀ lines, ¬ other.CreatesTable table lines

variable {base : Moment} {config : Config} {now : Moment} {schema : Schema} {model : Model}
  {assembler : Assembler} {tables : List Table} {tableFiles relationFiles artifacts : List Artifact}

/-! ### The migrations of tables -/

/-- The body of a table's migration. -/
def bodyOf (model : Model) (table : Table) : List String :=
  Assembler.indent (statements table (model.columnsOf table))

/-- The body has the statements of all columns. -/
theorem statement_mem_bodyOf {table : Table} {column : Column}
    (h : column ∈ model.columnsOf table) :
    Assembler.statementIndent ++ column.statement ∈ bodyOf model table := by
  refine List.mem_map_of_mem (List.mem_append_left _ (List.mem_append_left _ ?_))
  exact List.mem_map_of_mem h

/-- The migration of a table creates it. -/
theorem IsTableMigration.createsTable (hstubs : assembler.HasStubs) {table : Table}
    {file : Artifact} (h : IsTableMigration assembler model table file) :
    file.CreatesTable table.name (bodyOf model table) := by
  obtain ⟨key, hmigration⟩ := h
  rw [Assembler.tableMigration_eq_ok hstubs] at hmigration
  obtain rfl := Except.ok.inj hmigration
  exact ⟨rfl, rfl⟩

/-- The migration of a table creates no other table. -/
theorem IsTableMigration.name_eq (hstubs : assembler.HasStubs) {table : Table} {file : Artifact}
    (h : IsTableMigration assembler model table file) (hname : Text.isName table.name = true)
    {other : String} (hother : Text.isName other = true) {lines : List String}
    (hcreates : file.CreatesTable other lines) : other = table.name :=
  Assembler.tableText_inj hother hname (hcreates.2.symm.trans (h.createsTable hstubs).2)

/-- A table has a migration, and the migrations around it are those of tables with other
names. -/
theorem exists_migration_of_mem
    (h : List.Forall₂ (IsTableMigration assembler model) tables tableFiles)
    (hnames : (tables.map (·.name)).Nodup) {table : Table} (htable : table ∈ tables) :
    ∃ front made back, tableFiles = front ++ made :: back ∧
      IsTableMigration assembler model table made ∧
      ∀ file ∈ front ++ back, ∃ other ∈ tables, other.name ≠ table.name ∧
        IsTableMigration assembler model other file := by
  induction h with
  | nil => cases htable
  | @cons first made rest files hfirst hrest ih =>
    rw [List.map_cons, List.nodup_cons] at hnames
    -- The migration is the first one and its table is named by no other, or it is among the rest.
    rcases List.mem_cons.1 htable with rfl | htable
    · refine ⟨[], made, files, rfl, hfirst, fun file hfile => ?_⟩
      obtain ⟨other, hother, hmigration⟩ := exists_source_of_mem hrest file hfile
      refine ⟨other, List.mem_cons_of_mem _ hother, fun heq => hnames.1 ?_, hmigration⟩
      exact heq ▸ List.mem_map_of_mem hother
    · obtain ⟨front, found, back, rfl, hfound, hothers⟩ := ih hnames.2 htable
      refine ⟨made :: front, found, back, rfl, hfound, ?_⟩
      rw [List.cons_append]
      refine List.forall_mem_cons.2 ⟨⟨first, List.mem_cons_self, ?_, hfirst⟩, fun file hfile => ?_⟩
      · exact fun heq => hnames.1 (heq ▸ List.mem_map_of_mem htable)
      · obtain ⟨other, hother, hne, hmigration⟩ := hothers file hfile
        exact ⟨other, List.mem_cons_of_mem _ hother, hne, hmigration⟩

/-- A column of a table of the model is created once. -/
theorem createdOnce_of_hasColumn (hstubs : assembler.HasStubs)
    (h : List.Forall₂ (IsTableMigration assembler model) model.tables tableFiles)
    (hnames : (model.tables.map (·.name)).Nodup)
    (hisName : ∀ table ∈ model.tables, Text.isName table.name = true)
    {rest : List Artifact} (hrest : ∀ file ∈ rest, file.kind ≠ .table)
    {table column : String} (hcolumn : model.HasColumn table column) :
    CreatedOnce tableFiles rest table column := by
  obtain ⟨t, htable, rfl, c, hc, rfl⟩ := hcolumn
  obtain ⟨front, made, back, hsplit, hmade, hothers⟩ := exists_migration_of_mem h hnames htable
  refine ⟨front, made, back, bodyOf model t, hsplit, hmade.createsTable hstubs,
    ⟨c, rfl, statement_mem_bodyOf hc⟩, fun file hfile lines hcreates => ?_⟩
  rcases List.mem_append.1 hfile with hfile | hfile
  · obtain ⟨other, hother, hne, hmigration⟩ := hothers file hfile
    exact hne (hmigration.name_eq hstubs (hisName other hother) (hisName t htable) hcreates).symm
  · exact hrest file hfile hcreates.1

/-! ### The migration of relations -/

/-- The migration of relations stands behind those of the tables, and the snapshot behind it. -/
theorem Produced.split_at_relations
    (h : Produced base config schema assembler tableFiles relationFiles artifacts)
    {before after : List Artifact} {file : Artifact} (hfiles : artifacts = before ++ file :: after)
    (hkind : file.kind = .relations) :
    before = tableFiles ∧ after = [.snapshot schema.snapshot] ∧
      IsRelationsMigration config assembler schema.toModel file := by
  have htables : file ∉ tableFiles := fun hmem => by
    rw [kind_of_tables h.tables file hmem] at hkind
    cases hkind
  have hsnapshot : file ∉ [Artifact.snapshot schema.snapshot] := fun hmem => by
    rw [List.mem_singleton.1 hmem] at hkind
    cases hkind
  rw [h.artifacts_eq] at hfiles
  rcases h.relations with ⟨rfl, -⟩ | ⟨made, rfl, -, hmigration⟩
  · -- Without relations there are only tables and the snapshot.
    have hmem : file ∈ tableFiles ++ [] ++ [Artifact.snapshot schema.snapshot] := by
      rw [hfiles]
      simp
    simp only [List.append_nil, List.mem_append] at hmem
    exact (hmem.elim htables hsnapshot).elim
  · rw [List.append_assoc, List.singleton_append] at hfiles
    obtain ⟨hbefore, rfl, hafter⟩ := (List.append_cons_inj_of_notMem htables hsnapshot).1 hfiles
    exact ⟨hbefore.symm, hafter.symm, hmigration⟩

/-- The migration of relations has the statements of the relations of the model. -/
theorem IsRelationsMigration.exists_blocks (hstubs : assembler.HasStubs) {file : Artifact}
    (h : IsRelationsMigration config assembler model file) :
    ∃ set blocks, RelationBlocks.ofSet? set = some blocks ∧ set.toList = model.relations ∧
      file.content = Assembler.relationsText config.relationsName blocks := by
  obtain ⟨key, set, blocks, hblocks, hset, hmigration⟩ := h
  rw [Assembler.relationsMigration_eq_ok hstubs] at hmigration
  exact ⟨set, blocks, hblocks, hset, congrArg Artifact.content (Except.ok.inj hmigration).symm⟩

/-- A run that succeeds has had its model validated. -/
theorem validate_of_generate {output : Collection} (h : generate config now schema = .ok output) :
    ∃ warnings, schema.toModel.validate config.strictness = .ok warnings := by
  obtain ⟨hcheck, -⟩ := generate_eq_ok_iff.1 h
  exact ⟨output.warnings, (check_eq_ok_iff.1 hcheck).2.1⟩

/-- In strict mode every statement that adds a foreign key finds the column it is about and the
column it refers to: exactly one migration before it creates the table of each, with a statement
for the column, and none after it does. -/
theorem relations_resolve {output : Collection} {before after : List Artifact} {file : Artifact}
    (hstrict : config.strictness = .strict) (h : generate config now schema = .ok output)
    (hfiles : output.files = before ++ file :: after) (hkind : file.kind = .relations) :
    ∃ set blocks, RelationBlocks.ofSet? set = some blocks ∧
      set.toList = schema.toModel.relations ∧
      file.content = Assembler.relationsText config.relationsName blocks ∧
      ∀ r, RelationBlocks.Applies blocks.apply r →
        CreatedOnce before (file :: after) r.table r.column ∧
        CreatedOnce before (file :: after) r.targetTable r.targetColumn := by
  obtain ⟨haccepted, -, assembler, tableFiles, relationFiles, hassembler, hproduced⟩ :=
    produced_of_generate h rfl
  have hstubs := Assembler.hasStubs_of_ofExtension hassembler
  obtain ⟨rfl, rfl, hmigration⟩ := hproduced.split_at_relations hfiles hkind
  obtain ⟨set, blocks, hblocks, hset, hcontent⟩ := hmigration.exists_blocks hstubs
  obtain ⟨warnings, hmodel⟩ := validate_of_generate h
  rw [hstrict] at hmodel
  have hrest : ∀ other ∈ [file, .snapshot schema.snapshot], other.kind ≠ .table := by
    simp [Artifact.snapshot, hkind]
  have hcreated {table column : String} (hcolumn : schema.toModel.HasColumn table column) :
      CreatedOnce before [file, .snapshot schema.snapshot] table column :=
    createdOnce_of_hasColumn hstubs hproduced.tables haccepted.nodup_tables
      (fun _ => Model.isName_of_validate hmodel) hrest hcolumn
  refine ⟨set, blocks, hblocks, hset, hcontent, fun r happlies => ?_⟩
  have hmem : r ∈ schema.toModel.relations :=
    hset ▸ (RelationBlocks.applies_iff hblocks r).1 happlies
  exact ⟨hcreated (Model.hasColumn_source hmem), hcreated (Model.hasColumn_target hmodel hmem)⟩

theorem mem_relations_sharedGroup :
    ⟨"pages", "post_id", "posts", "id"⟩ ∈ sharedSchema.toModel.relations := by
  have hrelations : sharedSchema.toModel.relations =
      [⟨"posts", "post_id", "posts", "id"⟩, ⟨"pages", "post_id", "posts", "id"⟩] := by
    decide
  rw [hrelations]
  simp

/-- The foreign key of the second of two tables that share a group of columns finds the column
of the first one, and its own. -/
theorem relations_resolve_sharedGroup :
    fixedTime.strictness = .strict ∧ ∃ output before file after,
      generate fixedTime firstMoment sharedSchema = .ok output ∧
      output.files = before ++ file :: after ∧ file.kind = .relations ∧
      ∃ blocks, file.content = Assembler.relationsText fixedTime.relationsName blocks ∧
        RelationBlocks.Applies blocks.apply ⟨"pages", "post_id", "posts", "id"⟩ ∧
        CreatedOnce before (file :: after) "pages" "post_id" ∧
        CreatedOnce before (file :: after) "posts" "id" := by
  obtain ⟨output, houtput⟩ := exists_generate_sharedGroup
  obtain ⟨-, -, assembler, tableFiles, relationFiles, -, hproduced⟩ :=
    produced_of_generate houtput rfl
  rcases hproduced.relations with ⟨-, hnone⟩ | ⟨file, rfl, -, -⟩
  · exact absurd hnone (by decide)
  have hkind : file.kind = .relations := hproduced.kind_of_relations file (by simp)
  have hfiles : output.files = tableFiles ++ file :: [.snapshot sharedSchema.snapshot] := by
    rw [hproduced.artifacts_eq, List.append_assoc, List.singleton_append]
  obtain ⟨set, blocks, hblocks, hset, hcontent, hresolve⟩ :=
    relations_resolve rfl houtput hfiles hkind
  have happlies : RelationBlocks.Applies blocks.apply ⟨"pages", "post_id", "posts", "id"⟩ := by
    rw [RelationBlocks.applies_iff hblocks, hset]
    exact mem_relations_sharedGroup
  have hcreated := hresolve _ happlies
  exact ⟨rfl, output, tableFiles, file, _, houtput, hfiles, hkind, blocks, hcontent, happlies,
    hcreated⟩

end Generator

end SchemaMigration
