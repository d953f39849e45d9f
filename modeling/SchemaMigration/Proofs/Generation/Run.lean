import Mathlib.Data.List.Forall2
import SchemaMigration.Proofs.Generation.FileOrder
import SchemaMigration.Proofs.Generation.RelationRun
import SchemaMigration.Proofs.Migration.Rendering

/-!
# `SchemaMigration.Proofs.Generation.Run`: the artifacts that a run makes

Each step of a run is taken apart into what it makes when its key can be handed
out, and why it stops when not (`Stopped`). The only reason is the sequencer: the
columns are there, the templates can be filled and the stages follow each other.

A `_cases` lemma states this for one step. `TablesDone` and `RelationsDone` are what
the steps leave behind: the files that have been made, with their keys in sequence,
and what the next step needs of the progress. `processEach_cases` goes through the
tables by induction, at a key that moves on with them. `produce_cases` puts the steps
of a whole run together. It is the only lemma here that later modules take a run apart
with, and it has three cases: the run reaches its end, or it stops among the keys that
the model asks for, or it does not start at all.

A run that stops has made some files. They are sequenced too, which is what shows that
no sink refuses any of them.
-/

set_option autoImplicit false

namespace SchemaMigration.Generator

open SchemaMigration.Calendar
open SchemaMigration.Outcome
open SchemaMigration.Sequencer (HasIssued)

/-- Why a run stops among `n` keys from key `k` on: the moment of one of them has no key, or
the counter cannot count them. -/
inductive Stopped (base : Moment) (step : Int) (k n : Nat) : Error → Prop where
  | noKey {i : Nat} (fault : ConfigFault) (hle : k ≤ i) (hlt : i < k + n)
      (hyears : ¬ Moment.InKeyYears (base.timeline + step * i)) :
      Stopped base step k n (.configuration fault)
  | counterFull (reason : String) (hfull : 2 ^ 31 ≤ k + n) :
      Stopped base step k n (.internal reason)

/-- A run that stops among some keys stops among more. -/
theorem Stopped.mono {base : Moment} {step : Int} {k n k' n' : Nat} {error : Error}
    (h : Stopped base step k n error) (hfirst : k' ≤ k) (hlast : k + n ≤ k' + n') :
    Stopped base step k' n' error := by
  cases h with
  | noKey fault hle hlt hyears => exact .noKey fault (by omega) (by omega) hyears
  | counterFull reason hfull => exact .counterFull reason (by omega)

/-- What is made of a list, one for one, is made of its elements. -/
theorem exists_source_of_mem {α β : Type} {r : α → β → Prop} {sources : List α} {made : List β}
    (h : List.Forall₂ r sources made) : ∀ b ∈ made, ∃ a ∈ sources, r a b := by
  induction h with
  | nil => simp
  | cons hfirst _ ih =>
    refine List.forall_mem_cons.2 ⟨⟨_, List.mem_cons_self, hfirst⟩, fun b hb => ?_⟩
    obtain ⟨a, ha, hrelated⟩ := ih b hb
    exact ⟨a, List.mem_cons_of_mem _ ha, hrelated⟩

/-- The file is the migration of a table under some key. -/
def IsTableMigration (assembler : Assembler) (model : Model) (table : Table)
    (file : Artifact) : Prop :=
  ∃ key, assembler.tableMigration key table.name
    (Assembler.indent (statements table (model.columnsOf table))) = .ok file

/-- The file is the migration of the relations of a model under some key. -/
def IsRelationsMigration (config : Config) (assembler : Assembler) (model : Model)
    (file : Artifact) : Prop :=
  ∃ key set blocks, RelationBlocks.ofSet? set = some blocks ∧ set.toList = model.relations ∧
    assembler.relationsMigration key config.relationsName blocks = .ok file

variable {base : Moment} {step : Int} {k : Nat} {config : Config} {model : Model}
  {assembler : Assembler} {progress after : Progress}

/-- A file name is a key and a suffix. -/
theorem fileName_eq (key name extension : String) :
    Artifact.fileName key name extension =
      key ++ (keySeparator ++ (name ++ ("_table." ++ extension))) := by
  simp only [Artifact.fileName, String.append_assoc]

/-- A run moves on to the stage behind its own. -/
theorem advance_eq_ok {next : Stage} (h : progress.stage.next? = some next) :
    progress.advance next = .ok { progress with stage := next } := by
  rw [Progress.advance, Stage.advance, if_pos h]
  rfl

/-! ### The next key -/

/-- A key is handed out, or the run stops for the want of it. -/
theorem next_key_cases (hstep : 0 ≤ step) (hs : HasIssued base step k progress.sequencer) :
    (∃ (moment : Moment) (behind : Sequencer),
        progress.sequencer.next = .ok (moment.key, behind) ∧ moment.hasKey ∧
        moment.timeline = base.timeline + step * k ∧ HasIssued base step (k + 1) behind) ∨
      ∃ error, progress.sequencer.next = .error error ∧ Stopped base step k 1 error := by
  rcases Sequencer.next_cases hstep hs with h | ⟨hyears, fault, h⟩ | ⟨hfull, -, reason, h⟩
  · exact .inl h
  · exact .inr ⟨_, h, .noKey fault (Nat.le_refl k) (by omega) hyears⟩
  · exact .inr ⟨_, h, .counterFull reason (by omega)⟩

/-! ### Tables -/

/-- What a run has done after the tables that lay ahead of it at key `k`. -/
structure TablesDone (base : Moment) (step : Int) (model : Model) (assembler : Assembler)
    (k : Nat) (before : Progress) (tables : List Table) (files : List Artifact)
    (after : Progress) : Prop where
  migrations : List.Forall₂ (IsTableMigration assembler model) tables files
  sequenced : Sequenced base step k files
  issued : HasIssued base step (k + tables.length) after.sequencer
  stage_eq : after.stage = before.stage

/-- A table whose columns are there gets its migration under the next key. -/
theorem processTable_eq_ok (hstubs : assembler.HasStubs) {table : Table} {columns : List Column}
    {key : String} {behind : Sequencer} (hcolumns : model.columnsFor table = .ok columns)
    (hnext : progress.sequencer.next = .ok (key, behind)) :
    processTable model assembler progress table =
      ⟨[⟨Artifact.fileName key table.name assembler.extension,
          Assembler.tableText table.name (Assembler.indent (statements table columns)), .table⟩],
        .ok { progress with
          sequencer := behind
          relations := progress.relations.addTable table columns }⟩ := by
  rw [processTable, hcolumns, Production.lift_ok_bind, hnext, Production.lift_ok_bind]
  simp only [Assembler.tableMigration_eq_ok hstubs, Production.lift_ok_bind]
  rfl

/-- A table gets its migration, if there is a key for it. -/
theorem processTable_cases (hstep : 0 ≤ step) (hstubs : assembler.HasStubs)
    (hs : HasIssued base step k progress.sequencer) {table : Table}
    (hcolumns : model.columnsFor table = .ok (model.columnsOf table)) :
    (∃ file after, processTable model assembler progress table = ⟨[file], .ok after⟩ ∧
        TablesDone base step model assembler k progress [table] [file] after) ∨
      ∃ error, processTable model assembler progress table = ⟨[], .error error⟩ ∧
        Stopped base step k 1 error := by
  rcases next_key_cases hstep hs with ⟨moment, behind, hnext, hkey, hplace, hbehind⟩ |
    ⟨error, hnext, hstopped⟩
  · refine .inl ⟨_, _, processTable_eq_ok hstubs hcolumns hnext, ?_⟩
    exact {
      migrations := .cons ⟨moment.key, Assembler.tableMigration_eq_ok hstubs _ _ _⟩ .nil
      sequenced := .cons hkey hplace (fileName_eq ..) .nil
      issued := hbehind
      stage_eq := rfl }
  · rw [processTable, hcolumns, Production.lift_ok_bind, hnext, Production.lift_error_bind]
    exact .inr ⟨error, rfl, hstopped⟩

/-- Tables get their migrations in order, up to the first one that there is no key for. -/
theorem processEach_cases (hstep : 0 ≤ step) (hstubs : assembler.HasStubs) {tables : List Table}
    (hs : HasIssued base step k progress.sequencer)
    (hcolumns : ∀ table ∈ tables, model.columnsFor table = .ok (model.columnsOf table)) :
    (∃ files after, processEach model assembler progress tables = ⟨files, .ok after⟩ ∧
        TablesDone base step model assembler k progress tables files after) ∨
      ∃ files error, processEach model assembler progress tables = ⟨files, .error error⟩ ∧
        Sequenced base step k files ∧ Stopped base step k tables.length error := by
  induction tables generalizing progress k with
  | nil =>
    exact .inl ⟨[], progress, rfl,
      { migrations := .nil, sequenced := .nil, issued := hs, stage_eq := rfl }⟩
  | cons table rest ih =>
    -- The first table uses the key `k`. The others start at `k + 1`, with the progress that
    -- the first one has left.
    rw [processEach]
    rcases processTable_cases hstep hstubs hs (hcolumns table (by simp)) with
      ⟨file, middle, hfirst, hdone⟩ | ⟨error, hfirst, hstopped⟩
    · rw [hfirst, Production.bind_of_ok rfl]
      rcases ih hdone.issued (fun other hother => hcolumns other (by simp [hother])) with
        ⟨files, after, hrest, hrestDone⟩ | ⟨files, error, hrest, hsequenced, hstopped⟩
      · refine .inl ⟨file :: files, after, by rw [hrest]; rfl, ?_⟩
        exact {
          migrations := List.rel_append hdone.migrations hrestDone.migrations
          sequenced := hdone.sequenced.append hrestDone.sequenced
          issued := by
            have := hrestDone.issued
            rwa [Nat.add_assoc, List.length_singleton, Nat.add_comm 1] at this
          stage_eq := hrestDone.stage_eq.trans hdone.stage_eq }
      · -- The file of the first table has been made, also when a later one stops the run.
        refine .inr ⟨file :: files, error, by rw [hrest]; rfl,
          hdone.sequenced.append hsequenced, hstopped.mono (by omega) ?_⟩
        simp only [List.length_cons, List.length_nil]
        omega
    · rw [hfirst, Production.bind_of_error rfl]
      refine .inr ⟨[], error, rfl, .nil, hstopped.mono (Nat.le_refl k) ?_⟩
      simp

/-- A run that has not begun goes through its tables with no relations. -/
theorem processTables_eq (h : progress.stage = .idle) :
    processTables model assembler progress =
      processEach model assembler
        { progress with stage := .processing, relations := .empty } model.tables := by
  rw [processTables, advance_eq_ok (by rw [h]; rfl), Production.lift_ok_bind]

/-- The tables of an accepted model leave the relations of the model, in groups that are not
empty. -/
theorem Accepted.relations_after_tables (h : Accepted config model)
    (hbegin : progress.relations = .empty) {files : List Artifact}
    (hrun : processEach model assembler progress model.tables = ⟨files, .ok after⟩) :
    after.relations.toList = model.relations ∧ after.relations.NoEmptyGroup := by
  have hset : after.relations = addTables model .empty model.tables := by
    rw [relations_of_processEach (congrArg Production.outcome hrun), hbegin]
  rw [hset]
  exact ⟨h.toList_addTables, noEmptyGroup_addTables model.tables RelationSet.noEmptyGroup_empty⟩

/-! ### Relations, snapshot and end -/

/-- What a run has done after the migration of relations that lay ahead of it at key `k`. -/
structure RelationsDone (base : Moment) (step : Int) (config : Config) (model : Model)
    (assembler : Assembler) (k : Nat) (files : List Artifact) (after : Progress) : Prop where
  migrations : files = [] ∧ model.relations = [] ∨
    ∃ file, files = [file] ∧ model.relations ≠ [] ∧
      IsRelationsMigration config assembler model file
  sequenced : Sequenced base step k files
  stage_eq : after.stage = .aggregatingRelations

/-- The relations get their migration, if there are any and there is a key for it. -/
theorem processRelations_cases (config : Config) (hstep : 0 ≤ step) (hstubs : assembler.HasStubs)
    (hs : HasIssued base step k progress.sequencer) (hstage : progress.stage = .processing)
    (hgroups : progress.relations.NoEmptyGroup)
    (hrelations : progress.relations.toList = model.relations) :
    (∃ files after, processRelations config assembler progress = ⟨files, .ok after⟩ ∧
        RelationsDone base step config model assembler k files after) ∨
      ∃ error, processRelations config assembler progress = ⟨[], .error error⟩ ∧
        model.relations ≠ [] ∧ Stopped base step k 1 error := by
  unfold processRelations
  rw [advance_eq_ok (by rw [hstage]; rfl), Production.lift_ok_bind]
  -- There are blocks when the set is not empty, and the set is empty when it lists nothing.
  cases hblocks : RelationBlocks.ofSet? progress.relations with
  | none =>
    have hnone : model.relations = [] := by
      rw [← hrelations]
      refine (RelationSet.isEmpty_iff hgroups).1 ?_
      simpa [RelationBlocks.ofSet?] using hblocks
    exact .inl ⟨[], _, rfl, { migrations := .inl ⟨rfl, hnone⟩, sequenced := .nil, stage_eq := rfl }⟩
  | some blocks =>
    have hsome : model.relations ≠ [] := by
      intro hnone
      rw [← hrelations] at hnone
      simp [RelationBlocks.ofSet?, (RelationSet.isEmpty_iff hgroups).2 hnone] at hblocks
    dsimp only
    rcases next_key_cases hstep hs with ⟨moment, behind, hnext, hkey, hplace, -⟩ |
      ⟨error, hnext, hstopped⟩
    · have hmigration :=
        Assembler.relationsMigration_eq_ok hstubs moment.key config.relationsName blocks
      simp only [hnext, hmigration, Production.lift_ok_bind, Production.emit_bind,
        Production.pure_eq]
      refine .inl ⟨_, _, rfl, ?_⟩
      exact {
        migrations := .inr ⟨_, rfl, hsome, moment.key, progress.relations, blocks, hblocks,
          hrelations, hmigration⟩
        sequenced := .cons hkey hplace (fileName_eq ..) .nil
        stage_eq := rfl }
    · rw [hnext, Production.lift_error_bind]
      exact .inr ⟨error, rfl, hsome, hstopped⟩

/-- A run whose relations are done makes the snapshot and ends. -/
theorem finalize_eq (schema : Schema) (h : progress.stage = .aggregatingRelations) :
    finalize schema progress =
      ⟨[.snapshot schema.snapshot], .ok { progress with stage := .finalizing }⟩ := by
  rw [finalize, advance_eq_ok (by rw [h]; rfl), Production.lift_ok_bind, Production.emit_bind]
  rfl

/-! ### The whole run -/

/-- The artifacts of a run that reaches its end. -/
structure Produced (base : Moment) (config : Config) (schema : Schema) (assembler : Assembler)
    (tableFiles relationFiles artifacts : List Artifact) : Prop where
  artifacts_eq : artifacts = tableFiles ++ relationFiles ++ [.snapshot schema.snapshot]
  tables : List.Forall₂ (IsTableMigration assembler schema.toModel) schema.tables tableFiles
  relations : relationFiles = [] ∧ schema.toModel.relations = [] ∨
    ∃ file, relationFiles = [file] ∧ schema.toModel.relations ≠ [] ∧
      IsRelationsMigration config assembler schema.toModel file
  sequenced : Sequenced base config.stepSeconds.toInt 0 (tableFiles ++ relationFiles)

/-- A run of an accepted model reaches its end unless the step is too long or a key is missing.
What it has made before that is sequenced. -/
theorem produce_cases {schema : Schema} (now : Moment) (h : Accepted config schema.toModel)
    (hbase : config.baseTime.getD now = base) :
    (config.stepSeconds.toInt ≤ Sequencer.maxStep ∧
      ∃ assembler tableFiles relationFiles artifacts,
        Assembler.ofExtension config.extension = .ok assembler ∧
        produce config now schema = ⟨artifacts, .ok ()⟩ ∧
        Produced base config schema assembler tableFiles relationFiles artifacts) ∨
    (config.stepSeconds.toInt ≤ Sequencer.maxStep ∧
      ∃ files error, produce config now schema = ⟨files, .error error⟩ ∧
        Sequenced base config.stepSeconds.toInt 0 files ∧
        Stopped base config.stepSeconds.toInt 0 schema.toModel.migrationCount error) ∨
    Sequencer.maxStep < config.stepSeconds.toInt ∧
      ∃ fault, produce config now schema = ⟨[], .error (.configuration fault)⟩ := by
  have hstep : 0 ≤ config.stepSeconds.toInt := Int.le_trans (by decide) h.one_le_step
  unfold produce
  rw [hbase]
  rcases Sequencer.start_cases base h.one_le_step with ⟨hlong, sequencer, hstart, hissued⟩ |
    ⟨hlong, fault, hstart⟩
  case inr => exact .inr (.inr ⟨hlong, fault, by rw [hstart, Production.lift_error_bind]⟩)
  obtain ⟨assembler, hassembler, -, hstubs⟩ := Assembler.ofExtension_eq_ok config.extension
  rw [hstart, Production.lift_ok_bind, hassembler, Production.lift_ok_bind,
    processTables_eq rfl]
  have hcolumns : ∀ table ∈ schema.tables,
      schema.toModel.columnsFor table = .ok (schema.toModel.columnsOf table) :=
    fun table => h.columnsFor_eq
  have hbegin : HasIssued base config.stepSeconds.toInt 0
      ({ stage := .processing, sequencer } : Progress).sequencer := hissued
  rcases processEach_cases hstep hstubs hbegin hcolumns with
    ⟨tableFiles, middle, htables, hdone⟩ | ⟨files, error, htables, hsequenced, hstopped⟩
  case inr =>
    refine .inr (.inl ⟨hlong, files, error, ?_, hsequenced, hstopped.mono (Nat.le_refl 0) ?_⟩)
    · rw [htables, Production.bind_of_error rfl]
    · unfold Model.migrationCount
      omega
  rw [htables, Production.bind_of_ok rfl]
  have hlength : tableFiles.length = schema.tables.length := hdone.migrations.length_eq.symm
  obtain ⟨hrelations, hgroups⟩ := h.relations_after_tables rfl htables
  rcases processRelations_cases config hstep hstubs hdone.issued hdone.stage_eq
      hgroups hrelations with
    ⟨relationFiles, after, hfiles, hafter⟩ | ⟨error, hfiles, hsome, hstopped⟩
  · rw [hfiles, Production.bind_of_ok rfl, finalize_eq schema hafter.stage_eq,
      Production.bind_of_ok rfl, advance_eq_ok rfl, Production.lift_ok_bind]
    refine .inl ⟨hlong, assembler, tableFiles, relationFiles, _, rfl, rfl, ?_⟩
    exact {
      artifacts_eq := by simp
      tables := hdone.migrations
      relations := hafter.migrations
      sequenced := hdone.sequenced.append (by rw [hlength]; exact hafter.sequenced) }
  · -- The relations come behind all tables, so their key is the last that the model asks for.
    refine .inr (.inl ⟨hlong, tableFiles, error, ?_, hdone.sequenced,
      hstopped.mono (Nat.zero_le _) ?_⟩)
    · rw [hfiles, Production.bind_of_error rfl, List.append_nil]
    · rw [Model.migrationCount, if_neg hsome]
      omega

/-- A run of an accepted model that reaches its end has all its artifacts. -/
theorem produced_of_outcome {schema : Schema} {now : Moment} (h : Accepted config schema.toModel)
    (hbase : config.baseTime.getD now = base)
    (hend : (produce config now schema).outcome = .ok ()) :
    config.stepSeconds.toInt ≤ Sequencer.maxStep ∧
      ∃ assembler tableFiles relationFiles,
        Assembler.ofExtension config.extension = .ok assembler ∧
        Produced base config schema assembler tableFiles relationFiles
          (produce config now schema).artifacts := by
  rcases produce_cases now h hbase with
    ⟨hlong, assembler, tableFiles, relationFiles, artifacts, hassembler, hrun, hproduced⟩ |
    ⟨-, files, error, hrun, -, -⟩ | ⟨-, fault, hrun⟩
  · rw [hrun]
    exact ⟨hlong, assembler, tableFiles, relationFiles, hassembler, hproduced⟩
  · rw [hrun] at hend
    cases hend
  · rw [hrun] at hend
    cases hend

/-- A run of an accepted model that is not too long for the counter stops for the settings. -/
theorem configuration_of_outcome {schema : Schema} {now : Moment} {error : Error}
    (h : Accepted config schema.toModel) (hcount : schema.toModel.migrationCount < 2 ^ 31)
    (hstop : (produce config now schema).outcome = .error error) :
    ∃ fault, error = .configuration fault := by
  rcases produce_cases now h rfl with ⟨-, _, _, _, artifacts, -, hrun, -⟩ |
    ⟨-, files, stop, hrun, -, hstopped⟩ | ⟨-, fault, hrun⟩
  · rw [hrun] at hstop
    cases hstop
  · rw [hrun] at hstop
    obtain rfl : stop = error := Except.error.inj hstop
    cases hstopped with
    | noKey fault hle hlt hmissing => exact ⟨fault, rfl⟩
    | counterFull reason hfull => omega
  · rw [hrun] at hstop
    exact ⟨fault, (Except.error.inj hstop).symm⟩

end SchemaMigration.Generator
