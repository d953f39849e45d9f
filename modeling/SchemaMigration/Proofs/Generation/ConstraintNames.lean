import Mathlib.Data.List.Nodup
import SchemaMigration.Proofs.Generation.Resolution
import SchemaMigration.Proofs.Migration.DropStatements
import SchemaMigration.Proofs.Text.PascalCase

/-!
# `SchemaMigration.Proofs.Generation.ConstraintNames`: what the names of constraints tell apart

A migration of relations drops each constraint by its name, in a group that names its
table. In an accepted schema the tables have distinct names and so have the columns of
each. So a table and a name are those of one relation (`nodup_drops`), and the statement
that drops it is about the one constraint that the other side adds
(`dropped_constraints`).

The name alone does not say so much. It is made of both names by an underscore, and no
check looks at it. It is the name of one relation only, except where two of them clash.
-/

set_option autoImplicit false

namespace SchemaMigration.Generator

open SchemaMigration.Calendar

variable {config : Config} {schema : Schema} {model : Model} {warnings : List String}

/-- The relations of an accepted model start at distinct columns. -/
theorem Accepted.nodup_sources (h : Accepted config model) :
    (model.relations.map fun r => (r.table, r.column)).Nodup := by
  rw [Model.relations, List.map_flatMap, List.nodup_flatMap]
  have htable : ∀ {table : Table} {source : String × String},
      source ∈ (model.relationsOf table).map (fun r => (r.table, r.column)) →
        source.1 = table.name := by
    intro table source hsource
    obtain ⟨r, hr, rfl⟩ := List.mem_map.1 hsource
    exact RelationSet.table_of_mem_ofTable hr
  constructor
  · -- Within a table the columns differ.
    intro table hmem
    have hcolumns : ((model.relationsOf table).map (·.column)).Nodup :=
      RelationSet.nodup_columns_ofTable (h.nodup_columnsOf hmem)
    refine .of_map Prod.snd ?_
    rwa [List.map_map]
  · -- Between two tables their names do.
    have hnames : model.tables.Pairwise fun a b => a.name ≠ b.name :=
      List.pairwise_map.1 h.nodup_tables
    refine hnames.imp fun hne source hfirst hsecond => hne ?_
    exact (htable hfirst).symm.trans (htable hsecond)

/-- Relations of an accepted model whose constraints have one name are the same, or they clash. -/
theorem Accepted.eq_or_clash (h : Accepted config model) {r s : Relation}
    (hr : r ∈ model.relations) (hs : s ∈ model.relations) (hname : r.constraint = s.constraint) :
    r = s ∨ r.Clash s ∨ s.Clash r := by
  refine (Relation.constraint_eq_iff.1 hname).imp_left fun ⟨htable, hcolumn⟩ => ?_
  exact List.inj_on_of_nodup_map h.nodup_sources hr hs (Prod.ext htable hcolumn)

/-- A table and the name of a constraint belong to one relation. -/
theorem Accepted.nodup_drops (h : Accepted config model) :
    (model.relations.map Relation.drop).Nodup := by
  refine (List.nodup_map_iff_inj_on h.nodup_sources.of_map).2 fun r hr s hs heq => ?_
  obtain ⟨htable, hname⟩ := Prod.mk.inj heq
  rcases h.eq_or_clash hr hs hname with hsame | hclash | hclash
  · exact hsame
  · exact absurd htable hclash.table_ne
  · exact absurd htable.symm hclash.table_ne

/-- The names are distinct when no two relations clash. -/
theorem Accepted.nodup_constraints_iff (h : Accepted config model) :
    (model.relations.map Relation.constraint).Nodup ↔
      ∀ r ∈ model.relations, ∀ s ∈ model.relations, ¬ r.Clash s := by
  rw [List.nodup_map_iff_inj_on h.nodup_sources.of_map]
  constructor
  · intro hinj r hr s hs hclash
    have heq := hinj r hr s hs (Relation.constraint_eq_iff.2 (.inr (.inl hclash)))
    exact hclash.table_ne (congrArg Relation.table heq)
  · intro hnone r hr s hs hname
    rcases h.eq_or_clash hr hs hname with hsame | hclash | hclash
    · exact hsame
    · exact absurd hclash (hnone r hr s hs)
    · exact absurd hclash (hnone s hs r hr)

/-- Wherever it stands in the output, the migration of relations has the two sides that belong to
the relations of the model. -/
theorem exists_blocks_of_generate {now : Moment} {output : Collection} {file : Artifact}
    (h : generate config now schema = .ok output) (hfile : file ∈ output.files)
    (hkind : file.kind = .relations) :
    ∃ set blocks, RelationBlocks.ofSet? set = some blocks ∧
      set.toList = schema.toModel.relations ∧
      file.content = Assembler.relationsText config.relationsName blocks := by
  obtain ⟨-, -, assembler, tableFiles, relationFiles, hassembler, hproduced⟩ :=
    produced_of_generate h rfl
  obtain ⟨before, after, hfiles⟩ := List.append_of_mem hfile
  obtain ⟨-, -, hmigration⟩ := hproduced.split_at_relations hfiles hkind
  exact hmigration.exists_blocks (Assembler.hasStubs_of_ofExtension hassembler)

/-- The statements that drop constraints are one for each relation of an accepted schema, and a
table and a name are in one of them only. Each is about exactly one of the constraints that the
other side adds to the table. The names alone are distinct when no two relations clash. -/
theorem dropped_constraints (hcheck : check config schema.toModel = .ok warnings) :
    (schema.toModel.relations.map Relation.drop).Nodup ∧
      ((schema.toModel.relations.map Relation.constraint).Nodup ↔
        ∀ r ∈ schema.toModel.relations, ∀ s ∈ schema.toModel.relations, ¬ r.Clash s) ∧
      ∀ now output file, generate config now schema = .ok output → file ∈ output.files →
        file.kind = .relations →
          ∃ blocks, file.content = Assembler.relationsText config.relationsName blocks ∧
            RelationBlocks.readDrops none blocks.revert =
              some (schema.toModel.relations.map Relation.drop) ∧
            (∀ r, RelationBlocks.Applies blocks.apply r ↔ r ∈ schema.toModel.relations) ∧
            ∀ drop ∈ schema.toModel.relations.map Relation.drop,
              ∃! r, RelationBlocks.Applies blocks.apply r ∧ r.drop = drop := by
  have haccepted := accepted_of_check hcheck
  refine ⟨haccepted.nodup_drops, haccepted.nodup_constraints_iff, ?_⟩
  intro now output file houtput hfile hkind
  obtain ⟨set, blocks, hblocks, hset, hcontent⟩ := exists_blocks_of_generate houtput hfile hkind
  have happlies (r : Relation) :
      RelationBlocks.Applies blocks.apply r ↔ r ∈ schema.toModel.relations := by
    rw [RelationBlocks.applies_iff hblocks, hset]
  refine ⟨blocks, hcontent, ?_, happlies, fun drop hdrop => ?_⟩
  · rw [RelationBlocks.readDrops_revert hblocks, hset]
  · obtain ⟨r, hr, rfl⟩ := List.mem_map.1 hdrop
    refine ⟨r, ⟨(happlies r).2 hr, rfl⟩, fun s ⟨hs, heq⟩ => ?_⟩
    -- Two relations with one drop have one table and one constraint, which the check allows once.
    exact List.inj_on_of_nodup_map haccepted.nodup_drops ((happlies s).1 hs) hr heq

/-- Two tables, the name of the second of which goes on where that of the first ends, and a column
of the first that goes on in the same way. -/
def clashingSchema : Schema where
  tables := [⟨.number 1, "user", false, false⟩, ⟨.number 2, "user_group", false, false⟩]
  columns := .ofList [
    ("1", [.increments "id", .foreign "group_owner_id" "user" "id"]),
    ("2", [.increments "id", .foreign "owner_id" "user" "id"])]

theorem check_clashingSchema : check fixedTime clashingSchema.toModel = .ok [] :=
  check_fixedTime_of_folded (by decide) (by decide)

theorem drops_clashingSchema : clashingSchema.toModel.relations.map Relation.drop =
    [("user", "user_group_owner_id_foreign"), ("user_group", "user_group_owner_id_foreign")] := by
  decide

/-- Of two relations that clash, each is dropped by a statement in the group of its table. -/
theorem dropped_constraints_clashingSchema :
    check fixedTime clashingSchema.toModel = .ok [] ∧
      ∃ output file blocks, generate fixedTime firstMoment clashingSchema = .ok output ∧
        file ∈ output.files ∧ file.kind = .relations ∧
        file.content = Assembler.relationsText fixedTime.relationsName blocks ∧
        RelationBlocks.readDrops none blocks.revert =
          some [("user", "user_group_owner_id_foreign"),
            ("user_group", "user_group_owner_id_foreign")] ∧
        ∃! r, RelationBlocks.Applies blocks.apply r ∧
          r.drop = ("user_group", "user_group_owner_id_foreign") := by
  obtain ⟨output, houtput⟩ := exists_generate_fixedTime check_clashingSchema (by decide)
  obtain ⟨-, -, hdropped⟩ := dropped_constraints check_clashingSchema
  rw [drops_clashingSchema] at hdropped
  obtain ⟨-, -, _, _, relationFiles, -, hproduced⟩ := produced_of_generate houtput rfl
  rcases hproduced.relations with ⟨-, hnone⟩ | ⟨file, rfl, -, -⟩
  · exact absurd hnone (by decide)
  have hfile : file ∈ output.files := by
    rw [hproduced.artifacts_eq]
    simp
  have hkind : file.kind = .relations := hproduced.kind_of_relations file (by simp)
  obtain ⟨blocks, hcontent, hread, -, hone⟩ := hdropped _ _ _ houtput hfile hkind
  exact ⟨check_clashingSchema, output, file, blocks, houtput, hfile, hkind, hcontent, hread,
    hone _ (by simp)⟩

/-- The two constraints have one name, although the schema passes the check. -/
theorem not_nodup_constraints_clashingSchema :
    check fixedTime clashingSchema.toModel = .ok [] ∧
      ¬ (clashingSchema.toModel.relations.map Relation.constraint).Nodup := by
  refine ⟨check_clashingSchema, ?_⟩
  have hnames : clashingSchema.toModel.relations.map Relation.constraint =
      (clashingSchema.toModel.relations.map Relation.drop).map Prod.snd := by
    rw [List.map_map]
    rfl
  rw [hnames, drops_clashingSchema]
  decide

end SchemaMigration.Generator
