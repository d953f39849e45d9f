import Mathlib.Data.List.Forall2
import SchemaMigration.Proofs.Generation.Gathering
import SchemaMigration.Proofs.Schema.ResolvedKeys

/-!
# `SchemaMigration.Proofs.Generation.EmittedNames`: the names that a run makes migrations for

Every migration of a run is made for a name: a table's, or the one that the settings have for
the relations. The name decides which class the file declares and how its path ends
(`Artifact.MadeFor`). `emittedNames` says which names these are. `produce_emits` goes through a
run and finds a file for each of them, in order, and the snapshot behind them.

Nothing here asks for a check. A run that reaches its end has these migrations whether or not
their names are distinct, so what a check expects can be compared with them. Only the relations
of an unchecked model are not those that the model lists, for a table may take the place of an
earlier one. Still there are none only when the model has none (`isEmpty_addTables`).
-/

set_option autoImplicit false

namespace SchemaMigration

open SchemaMigration.Calendar
open SchemaMigration.Outcome

/-- A model has a relation or it has none, and which is the case can be computed. -/
instance (model : Model) : Decidable model.HasRelation :=
  decidable_of_iff _ model.relations_ne_nil_iff

/-- The file is a migration for a name: the path ends with the name, and the content declares the
class of it. -/
structure Artifact.MadeFor (extension name : String) (file : Artifact) : Prop where
  path_eq : ∃ moment : Moment, moment.hasKey ∧
    file.path = Artifact.fileName moment.key name extension
  content_eq : ∃ body, file.content = Stub.classOpening ++ className name ++ Stub.upOpening ++ body
  isMigration : file.isMigration

/-! ### Steps in a row -/

namespace Production

variable {α β : Type} {p : Production α} {f : α → Production β} {files : List Artifact} {b : β}

/-- Steps in a row that reach their end have made what each of them has. -/
theorem bind_eq_ok_iff : p >>= f = ⟨files, .ok b⟩ ↔
    ∃ a first rest, p = ⟨first, .ok a⟩ ∧ f a = ⟨rest, .ok b⟩ ∧ files = first ++ rest := by
  obtain ⟨made, outcome⟩ := p
  cases outcome with
  | error error =>
    rw [show _ >>= f = ⟨made, .error error⟩ from bind_of_error rfl f]
    constructor
    · exact fun h => nomatch (mk.inj h).2
    · exact fun ⟨_, _, _, h, _⟩ => nomatch (mk.inj h).2
  | ok a =>
    rw [bind_of_ok rfl, mk.injEq]
    constructor
    · rintro ⟨rfl, hb⟩
      exact ⟨a, made, (f a).artifacts, rfl, by rw [← hb], rfl⟩
    · rintro ⟨_, _, rest, ⟨rfl, rfl⟩, hrest, rfl⟩
      rw [hrest]
      exact ⟨rfl, rfl⟩

/-- A step that makes nothing leaves it to the next one. -/
theorem lift_bind_eq_ok_iff {outcome : Except Error α} : lift outcome >>= f = ⟨files, .ok b⟩ ↔
    ∃ a, outcome = .ok a ∧ f a = ⟨files, .ok b⟩ := by
  cases outcome with
  | error error =>
    rw [lift_error_bind]
    constructor
    · exact fun h => nomatch (mk.inj h).2
    · exact fun ⟨_, h, _⟩ => nomatch h
  | ok a => simp

end Production

/-! ### The class that a migration declares -/

namespace Assembler

theorem exists_body_tableText (table : String) (lines : List String) :
    ∃ body, tableText table lines =
      Stub.classOpening ++ className table ++ Stub.upOpening ++ body := by
  refine ⟨Stub.createOpening ++ (table ++ (Stub.createBody ++ (String.intercalate "\n" lines ++
    (Stub.dropOpening ++ (table ++ Stub.dropEnding))))), ?_⟩
  simp only [tableText, String.append_assoc]

theorem exists_body_relationsText (name : String) (blocks : RelationBlocks) :
    ∃ body, relationsText name blocks =
      Stub.classOpening ++ className name ++ Stub.upOpening ++ body := by
  refine ⟨String.intercalate "\n" blocks.apply ++ (Stub.downOpening ++
    (String.intercalate "\n" blocks.revert ++ Stub.ending)), ?_⟩
  simp only [relationsText, String.append_assoc]

end Assembler

/-! ### Relations that are left -/

namespace RelationSet

variable {set : RelationSet}

/-- A set is not empty behind a relation. -/
theorem isEmpty_add (set : RelationSet) (r : Relation) : (set.add r).isEmpty = false :=
  List.isEmpty_eq_false_iff.2 Keyed.put_ne_nil

/-- A table leaves a set empty when it has no relations. -/
theorem isEmpty_addTable (set : RelationSet) (table : Table) (columns : List Column) :
    (set.addTable table columns).isEmpty ↔ set.isEmpty ∧ ofTable table columns = [] := by
  rw [addTable, ← ofTable]
  generalize ofTable table columns = relations
  induction relations generalizing set with
  | nil => simp
  | cons r rest ih =>
    rw [List.foldl_cons, ih, isEmpty_add]
    simp

end RelationSet

namespace Generator

variable {config : Config} {model : Model} {schema : Schema} {assembler : Assembler}
  {progress after : Progress} {files : List Artifact} {now : Moment}

/-- The names that migrations are made for: the tables', and the one for the relations when a
column of a table relates to another. -/
def emittedNames (config : Config) (model : Model) : List String :=
  model.tables.map (·.name) ++ if model.HasRelation then [config.relationsName] else []

/-- Tables leave no relations when they have none. -/
theorem isEmpty_addTables (model : Model) (tables : List Table) (set : RelationSet) :
    (addTables model set tables).isEmpty ↔
      set.isEmpty ∧ ∀ table ∈ tables, model.relationsOf table = [] := by
  induction tables generalizing set with
  | nil => simp [addTables]
  | cons table rest ih =>
    have hrest := ih (set.addTable table (model.columnsOf table))
    rw [RelationSet.isEmpty_addTable] at hrest
    rw [List.forall_mem_cons, ← and_assoc]
    exact hrest

/-- All tables together leave none when the model has none. -/
theorem isEmpty_addTables_empty (model : Model) :
    (addTables model .empty model.tables).isEmpty ↔ ¬ model.HasRelation := by
  rw [isEmpty_addTables, ← model.relations_ne_nil_iff, not_not, Model.relations,
    List.flatMap_eq_nil_iff]
  exact and_iff_right rfl

theorem relations_of_advance {next : Stage} (h : progress.advance next = .ok after) :
    after.relations = progress.relations := by
  obtain ⟨stage, -, hstage⟩ := Outcome.bind_eq_ok_iff.1 h
  exact (congrArg Progress.relations (Except.ok.inj hstage)).symm

/-- A table that is processed has its migration. -/
theorem processTable_emits (hstubs : assembler.HasStubs) {table : Table}
    (h : processTable model assembler progress table = ⟨files, .ok after⟩) :
    ∃ file, files = [file] ∧ file.MadeFor assembler.extension table.name := by
  unfold processTable at h
  obtain ⟨columns, -, hkeyed⟩ := Production.lift_bind_eq_ok_iff.1 h
  obtain ⟨⟨key, behind⟩, hnext, hmade⟩ := Production.lift_bind_eq_ok_iff.1 hkeyed
  obtain ⟨moment, -, hkey, rfl⟩ := Sequencer.next_eq_ok hnext
  simp only [Assembler.tableMigration_eq_ok hstubs, Production.lift_ok_bind,
    Production.emit_bind, Production.pure_eq, Production.mk.injEq] at hmade
  exact ⟨_, hmade.1.symm, ⟨moment, hkey, rfl⟩, Assembler.exists_body_tableText .., rfl⟩

/-- Tables that are processed have their migrations, in order. -/
theorem processEach_emits (hstubs : assembler.HasStubs) {tables : List Table}
    (h : processEach model assembler progress tables = ⟨files, .ok after⟩) :
    List.Forall₂ (Artifact.MadeFor assembler.extension) (tables.map (·.name)) files := by
  induction tables generalizing progress files with
  | nil =>
    obtain ⟨rfl, -⟩ := Production.mk.inj h
    exact .nil
  | cons table rest ih =>
    rw [processEach] at h
    obtain ⟨middle, first, others, hfirst, hrest, rfl⟩ := Production.bind_eq_ok_iff.1 h
    obtain ⟨file, rfl, hfile⟩ := processTable_emits hstubs hfirst
    exact .cons hfile (ih hrest)

/-- Relations that are processed have their migration, if there are any. -/
theorem processRelations_emits (hstubs : assembler.HasStubs)
    (h : processRelations config assembler progress = ⟨files, .ok after⟩) :
    List.Forall₂ (Artifact.MadeFor assembler.extension)
      (if progress.relations.isEmpty then [] else [config.relationsName]) files := by
  unfold processRelations at h
  obtain ⟨moved, hmoved, hblocks⟩ := Production.lift_bind_eq_ok_iff.1 h
  rw [← relations_of_advance hmoved]
  -- There are blocks just when the set is not empty.
  cases hempty : moved.relations.isEmpty with
  | true =>
    have hnone : RelationBlocks.ofSet? moved.relations = none := if_pos hempty
    rw [hnone] at hblocks
    obtain ⟨rfl, -⟩ := Production.mk.inj hblocks
    exact .nil
  | false =>
    obtain ⟨blocks, hsome⟩ : ∃ blocks, RelationBlocks.ofSet? moved.relations = some blocks :=
      ⟨_, if_neg (by rw [hempty]; decide)⟩
    rw [hsome] at hblocks
    obtain ⟨⟨key, behind⟩, hnext, hmade⟩ := Production.lift_bind_eq_ok_iff.1 hblocks
    obtain ⟨moment, -, hkey, rfl⟩ := Sequencer.next_eq_ok hnext
    simp only [Assembler.relationsMigration_eq_ok hstubs, Production.lift_ok_bind,
      Production.emit_bind, Production.pure_eq, Production.mk.injEq] at hmade
    rw [← hmade.1]
    exact .cons ⟨⟨moment, hkey, rfl⟩, Assembler.exists_body_relationsText .., rfl⟩ .nil

/-- A run that reaches its end has a migration for each name, in order, and the snapshot behind
them. -/
theorem produce_emits (h : produce config now schema = ⟨files, .ok ()⟩) :
    ∃ migrations, files = migrations ++ [.snapshot schema.snapshot] ∧
      List.Forall₂ (Artifact.MadeFor config.extension) (emittedNames config schema.toModel)
        migrations := by
  unfold produce at h
  obtain ⟨sequencer, -, hassembled⟩ := Production.lift_bind_eq_ok_iff.1 h
  obtain ⟨assembler, hassembler, hrun⟩ := Production.lift_bind_eq_ok_iff.1 hassembled
  obtain ⟨other, hother, hextension, hstubs⟩ := Assembler.ofExtension_eq_ok config.extension
  obtain rfl := Except.ok.inj (hassembler.symm.trans hother)
  obtain ⟨middle, tableFiles, behind, htables, hrest, rfl⟩ := Production.bind_eq_ok_iff.1 hrun
  obtain ⟨related, relationFiles, last, hrelated, hend, rfl⟩ :=
    Production.bind_eq_ok_iff.1 hrest
  obtain ⟨final, snapshots, nothing, hfinal, hclosed, rfl⟩ := Production.bind_eq_ok_iff.1 hend
  obtain ⟨started, hstarted, heach⟩ := Production.lift_bind_eq_ok_iff.1 htables
  obtain ⟨ended, -, hsnapshot⟩ := Production.lift_bind_eq_ok_iff.1 hfinal
  obtain ⟨closed, -, hclosed⟩ := Production.lift_bind_eq_ok_iff.1 hclosed
  rw [Production.emit_bind] at hsnapshot
  obtain ⟨rfl, -⟩ := Production.mk.inj hsnapshot
  obtain ⟨rfl, -⟩ := Production.mk.inj hclosed
  have hnames := processEach_emits hstubs heach
  have hlast := processRelations_emits hstubs hrelated
  have hrelations := relations_of_processEach (congrArg Production.outcome heach)
  rw [hextension] at hnames hlast
  refine ⟨tableFiles ++ relationFiles, by simp, List.rel_append hnames ?_⟩
  -- The relations that are left decide, and there are some when the model has some.
  have hempty := isEmpty_addTables_empty schema.toModel
  rw [← hrelations] at hempty
  by_cases h : schema.toModel.HasRelation
  · rw [if_pos h]
    rwa [if_neg fun hnone => hempty.1 hnone h] at hlast
  · rw [if_neg h]
    rwa [if_pos (hempty.2 h)] at hlast

/-- In an accepted schema migrations are called by names. -/
theorem isName_of_mem_emittedNames {warnings : List String}
    (hcheck : check config model = .ok warnings) :
    ∀ name ∈ emittedNames config model, Text.isName name = true := by
  obtain ⟨hconfig, hmodel, -⟩ := check_eq_ok_iff.1 hcheck
  intro name hname
  refine isName_of_mem_names hconfig hmodel name ?_
  unfold emittedNames at hname
  split at hname
  · exact hname
  · rw [List.append_nil] at hname
    exact List.mem_append_left _ hname

/-- The migrations of a run in memory are those for its names. -/
theorem emitted_of_generate {output : Collection} (h : generate config now schema = .ok output) :
    List.Forall₂ (Artifact.MadeFor config.extension) (emittedNames config schema.toModel)
      output.migrations := by
  obtain ⟨-, hrun⟩ := generate_eq_ok_iff.1 h
  obtain ⟨migrations, hfiles, hmigrations⟩ := produce_emits hrun
  have hall : migrations.filter Artifact.isMigration = migrations := by
    rw [List.filter_eq_self]
    intro file hfile
    obtain ⟨name, -, hmade⟩ := exists_source_of_mem hmigrations file hfile
    exact hmade.isMigration
  have hsnapshot : [Artifact.snapshot schema.snapshot].filter Artifact.isMigration = [] := rfl
  rw [Collection.migrations, hfiles, List.filter_append, hall, hsnapshot, List.append_nil]
  exact hmigrations

end Generator

end SchemaMigration
