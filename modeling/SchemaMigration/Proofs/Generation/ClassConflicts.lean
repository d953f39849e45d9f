import Mathlib.Data.List.Nodup
import SchemaMigration.Proofs.Generation.EmittedNames
import SchemaMigration.Proofs.Schema.RelationCount
import SchemaMigration.Proofs.Schema.Validity

/-!
# `SchemaMigration.Proofs.Generation.ClassConflicts`: when a check refuses two names

A check refuses a schema when two of the names that it expects migrations for have one class
(`checkClasses_eq_error`). It expects the name of the relations when the model counts any. So it
refuses the names that a run has migrations for when two of those have one class, and in one
more case (`check_duplicate`). A model whose relations are all in stray groups has no migration
of relations. The check expects one all the same, and refuses a table of its class.
-/

set_option autoImplicit false

namespace SchemaMigration

open SchemaMigration.Outcome

/-- Whether a model has stray relations can be computed. -/
instance (model : Model) : Decidable model.HasStrayRelation :=
  inferInstanceAs (Decidable (∃ group ∈ model.columns.entries, _))

/-- The check of a schema finds fault with the schema, never with what is made of it. -/
theorem Model.validate_ne_duplicate {model : Model} {strictness : Strictness} {name : String}
    {clash : NameClash} :
    model.validate strictness ≠ .error (.duplicateArtifact name clash) := by
  intro h
  by_cases hsound : ∀ table ∈ model.tables, model.Sound table
  · rw [Model.validate_of_sound hsound] at h
    cases strictness with
    | lenient => cases h
    | strict =>
      -- The error is that of a broken relation.
      cases hbroken : model.brokenKeys with
      | nil =>
        rw [hbroken] at h
        cases h
      | cons error rest =>
        obtain ⟨table, column, target, rfl⟩ :=
          Model.exists_of_mem_brokenKeys (hbroken ▸ List.mem_cons_self)
        rw [hbroken] at h
        cases h
  · simp only [Classical.not_forall, exists_prop] at hsound
    obtain ⟨reason, hreason⟩ := Model.exists_firstFault_iff.2 hsound
    rw [Model.validate_of_firstFault hreason] at h
    cases h

theorem Config.validate_ne_duplicate {config : Config} {name : String} {clash : NameClash} :
    config.validate ≠ .error (.duplicateArtifact name clash) := by
  unfold Config.validate
  split
  · nofun
  · split
    · nofun
    · split <;> nofun

namespace Generator

variable {config : Config} {model : Model} {names : List String} {error : Error}

/-- A name is refused for an earlier one that has its class. -/
theorem exists_of_checkClasses {seen : List (String × String)}
    (hseen : ∀ entry ∈ seen, entry.1 = className entry.2)
    (h : checkClasses seen names = .error error) :
    ∃ front name back previous, names = front ++ name :: back ∧
      previous ∈ seen.map Prod.snd ++ front ∧ className previous = className name ∧
      error = .duplicateArtifact (className name) (.sameMigration previous name) := by
  induction names generalizing seen with
  | nil => cases h
  | cons name rest ih =>
    unfold checkClasses at h
    dsimp only at h
    split at h
    · next previous hprevious =>
      have hmem : (className name, previous) ∈ seen := by
        obtain ⟨before, after, rfl, -⟩ := List.lookup_eq_some_iff.1 hprevious
        simp
      refine ⟨[], name, rest, previous, rfl, ?_, (hseen _ hmem).symm, (Except.error.inj h).symm⟩
      rw [List.append_nil]
      exact List.mem_map_of_mem hmem
    · -- The name joins those seen, and stands in front of the one that is refused.
      obtain ⟨front, refused, back, previous, rfl, hprevious, hclass, herror⟩ :=
        ih (List.forall_mem_cons.2 ⟨rfl, hseen⟩) h
      refine ⟨name :: front, refused, back, previous, rfl, ?_, hclass, herror⟩
      simp only [List.map_cons, List.mem_append, List.mem_cons] at hprevious ⊢
      grind

/-- Names are refused for two of them, the first of which stands before the second. -/
theorem checkClasses_eq_error (h : checkClasses [] names = .error error) :
    ∃ previous name, [previous, name].Sublist names ∧ className previous = className name ∧
      error = .duplicateArtifact (className name) (.sameMigration previous name) := by
  obtain ⟨front, name, back, previous, rfl, hprevious, hclass, rfl⟩ :=
    exists_of_checkClasses (by simp) h
  rw [List.map_nil, List.nil_append] at hprevious
  have hname : [name].Sublist (name :: back) := List.singleton_sublist.2 List.mem_cons_self
  exact ⟨previous, name, (List.singleton_sublist.2 hprevious).append hname, hclass, rfl⟩

/-- Names are refused when their classes are not distinct. -/
theorem checkClasses_fails_iff :
    (∃ error, checkClasses [] names = .error error) ↔ ¬ (names.map className).Nodup := by
  constructor
  · rintro ⟨error, h⟩ hnodup
    rw [checkClasses_eq_ok hnodup (by simp)] at h
    cases h
  · intro hnodup
    cases h : checkClasses [] names with
    | error error => exact ⟨error, rfl⟩
    | ok _ => exact absurd (nodup_of_checkClasses h).1 hnodup

/-- Two names of one class are refused: the first one is new, and the second one is looked up
behind it. -/
theorem checkClasses_pair {previous name : String} (h : className previous = className name) :
    checkClasses [] [previous, name] =
      .error (.duplicateArtifact (className name) (.sameMigration previous name)) := by
  have hsecond : checkClasses [] [previous, name] =
      checkClasses [(className previous, previous)] [name] := by
    rw [checkClasses, List.lookup_nil]
  rw [hsecond, checkClasses, h, List.lookup_cons_self]

/-- A check fails for a duplicate when settings and schema are in order, and names are not. -/
theorem check_eq_duplicate_iff {class' : String} {clash : NameClash} :
    check config model = .error (.duplicateArtifact class' clash) ↔
      config.validate = .ok () ∧ (∃ warnings, model.validate config.strictness = .ok warnings) ∧
        checkClasses [] (migrationNames config model) =
          .error (.duplicateArtifact class' clash) := by
  constructor
  · intro h
    rcases bind_eq_error_iff.1 h with hconfig | ⟨_, hconfig, h⟩
    · exact absurd hconfig Config.validate_ne_duplicate
    rcases bind_eq_error_iff.1 h with hmodel | ⟨warnings, hmodel, h⟩
    · exact absurd hmodel Model.validate_ne_duplicate
    rcases bind_eq_error_iff.1 h with hclasses | ⟨_, _, hreturn⟩
    · exact ⟨hconfig, ⟨warnings, hmodel⟩, hclasses⟩
    · cases hreturn
  · rintro ⟨hconfig, ⟨warnings, hmodel⟩, hclasses⟩
    rw [check, hconfig, ok_bind, hmodel, ok_bind, hclasses, error_bind]

/-! ### The names that are expected -/

/-- A check expects the names that a run has migrations for. When the relations of a model are
all stray, it expects the name of the relations as well. -/
theorem migrationNames_eq (config : Config) (model : Model) :
    migrationNames config model = emittedNames config model ++
      if ¬ model.HasRelation ∧ model.HasStrayRelation then [config.relationsName] else [] := by
  have hcount := model.relationCount_pos_iff
  rw [migrationNames, emittedNames]
  by_cases h : model.HasRelation
  · rw [if_pos (hcount.2 (.inl h)), if_pos h, if_neg fun hnone => hnone.1 h, List.append_nil]
  · rw [if_neg h, List.append_nil]
    by_cases hstray : model.HasStrayRelation
    · rw [if_pos (hcount.2 (.inr hstray)), if_pos ⟨h, hstray⟩]
    · rw [if_neg fun hpos => (hcount.1 hpos).elim h hstray, if_neg fun hboth => hstray hboth.2]

/-- Without relations a run has migrations for the tables only. -/
theorem emittedNames_of_not_hasRelation (config : Config) (h : ¬ model.HasRelation) :
    emittedNames config model = model.tables.map (·.name) := by
  rw [emittedNames, if_neg h, List.append_nil]

/-- The relations of a model are expected for stray ones only, and a table has the class of
their name. -/
def StrayConflict (config : Config) (model : Model) : Prop :=
  ¬ model.HasRelation ∧ model.HasStrayRelation ∧
    ∃ table ∈ model.tables, className table.name = className config.relationsName

/-- The classes that are expected are not distinct when those of a run are not, or when a table
has the class of relations that are expected for stray ones. -/
theorem not_nodup_classes_iff :
    ¬ ((migrationNames config model).map className).Nodup ↔
      ¬ ((emittedNames config model).map className).Nodup ∨ StrayConflict config model := by
  rw [migrationNames_eq]
  by_cases h : ¬ model.HasRelation ∧ model.HasStrayRelation
  · obtain ⟨hnone, hstray⟩ := h
    rw [if_pos ⟨hnone, hstray⟩, emittedNames_of_not_hasRelation config hnone, List.map_append,
      List.map_singleton, List.nodup_append_comm, List.singleton_append, List.nodup_cons,
      StrayConflict, List.map_map]
    simp only [hnone, hstray, not_false_eq_true, true_and, not_and_or, not_not, List.mem_map]
    exact or_comm
  · rw [if_neg h, List.append_nil]
    exact (or_iff_left fun hconflict => h ⟨hconflict.1, hconflict.2.1⟩).symm

/-- Two names that are expected one behind the other are names that a run has migrations for, or
the second one is that of relations that are all stray. -/
theorem sublist_emittedNames_or {previous name : String}
    (h : [previous, name].Sublist (migrationNames config model)) :
    [previous, name].Sublist (emittedNames config model) ∨
      ¬ model.HasRelation ∧ model.HasStrayRelation ∧ name = config.relationsName ∧
        previous ∈ model.tables.map (·.name) := by
  rw [migrationNames_eq] at h
  by_cases hextra : ¬ model.HasRelation ∧ model.HasStrayRelation
  · obtain ⟨hnone, hstray⟩ := hextra
    rw [if_pos ⟨hnone, hstray⟩] at h
    rw [emittedNames_of_not_hasRelation config hnone] at h ⊢
    obtain ⟨front, back, hsplit, hfront, hback⟩ := List.sublist_append_iff.1 h
    rcases List.sublist_singleton.1 hback with rfl | rfl
    · rw [hsplit, List.append_nil]
      exact .inl hfront
    · -- The name behind is the last one, so the tables have the other.
      have hnames : [previous] ++ [name] = front ++ [config.relationsName] := hsplit
      obtain ⟨rfl, hname⟩ := List.append_inj' hnames rfl
      exact .inr ⟨hnone, hstray, List.head_eq_of_cons_eq hname, List.singleton_sublist.1 hfront⟩
  · rw [if_neg hextra, List.append_nil] at h
    exact .inl h

/-- A check fails for a duplicate when settings and schema are in order, and two of the names that
a run makes migrations for have one class, or the relations of the model are all stray and their
name has the class of a table. The error tells the two names. -/
theorem check_duplicate (config : Config) (model : Model) :
    ((∃ class' clash, check config model = .error (.duplicateArtifact class' clash)) ↔
      config.validate = .ok () ∧ (∃ warnings, model.validate config.strictness = .ok warnings) ∧
        (¬ ((emittedNames config model).map className).Nodup ∨ StrayConflict config model)) ∧
    (∀ class' clash, check config model = .error (.duplicateArtifact class' clash) →
      ∃ previous name, clash = .sameMigration previous name ∧
        className previous = class' ∧ className name = class' ∧
        ([previous, name].Sublist (emittedNames config model) ∨
          ¬ model.HasRelation ∧ model.HasStrayRelation ∧ name = config.relationsName ∧
            previous ∈ model.tables.map (·.name))) ∧
    ∀ now source artifacts, produce config now ⟨model, source⟩ = ⟨artifacts, .ok ()⟩ →
      ∃ migrations, artifacts = migrations ++ [.snapshot (Schema.mk model source).snapshot] ∧
        List.Forall₂ (Artifact.MadeFor config.extension) (emittedNames config model)
          migrations := by
  refine ⟨?_, fun class' clash h => ?_, fun now source artifacts => produce_emits⟩
  · -- The check fails for a duplicate when settings and model are valid and two classes are the
    -- same.
    rw [← not_nodup_classes_iff, ← checkClasses_fails_iff]
    simp only [check_eq_duplicate_iff]
    constructor
    · rintro ⟨class', clash, hconfig, hmodel, hclasses⟩
      exact ⟨hconfig, hmodel, _, hclasses⟩
    · rintro ⟨hconfig, hmodel, error, hclasses⟩
      obtain ⟨previous, name, -, -, rfl⟩ := checkClasses_eq_error hclasses
      exact ⟨_, _, hconfig, hmodel, hclasses⟩
  · obtain ⟨-, -, hclasses⟩ := check_eq_duplicate_iff.1 h
    obtain ⟨previous, name, hnames, hclass, herror⟩ := checkClasses_eq_error hclasses
    obtain ⟨rfl, rfl⟩ := Error.duplicateArtifact.inj herror
    exact ⟨previous, name, rfl, hclass, rfl, sublist_emittedNames_or hnames⟩

/-- A table with the name that the settings have for relations, and a relation in a group of no
table. -/
def strayLinks : Model where
  tables := [{ id := .number 1, name := "links" }]
  columns := .ofList [
    ("1", [.increments "id"]),
    ("9", [.increments "id", .foreign "link_id" "links" "id"])]

theorem check_strayLinks : check fixedTime strayLinks =
    .error (.duplicateArtifact "CreateLinksTable" (.sameMigration "links" "links")) := by
  refine check_eq_duplicate_iff.2 ⟨rfl, ⟨[], eq_ok_of_toOption (by decide)⟩, ?_⟩
  have hnames : migrationNames fixedTime strayLinks = ["links", "links"] := by decide
  have hclass : className "links" = "CreateLinksTable" := className_of_isLower rfl
  rw [hnames, checkClasses_pair rfl, hclass]

/-- The table is refused, and the error names it twice. -/
theorem check_duplicate_strayLinks :
    check fixedTime strayLinks =
        .error (.duplicateArtifact "CreateLinksTable" (.sameMigration "links" "links")) ∧
      fixedTime.validate = .ok () ∧
      (¬ ((emittedNames fixedTime strayLinks).map className).Nodup ∨
        StrayConflict fixedTime strayLinks) := by
  obtain ⟨hfails, -, -⟩ := check_duplicate fixedTime strayLinks
  obtain ⟨hconfig, -, hconflict⟩ := hfails.1 ⟨_, _, check_strayLinks⟩
  exact ⟨check_strayLinks, hconfig, hconflict⟩

/-- A run of the same model has one migration, and no two classes to tell apart. -/
theorem nodup_emitted_strayLinks :
    (∃ class' clash, check fixedTime strayLinks = .error (.duplicateArtifact class' clash)) ∧
      emittedNames fixedTime strayLinks = ["links"] ∧
      ((emittedNames fixedTime strayLinks).map className).Nodup := by
  have hnames : emittedNames fixedTime strayLinks = ["links"] := by decide
  refine ⟨⟨_, _, check_strayLinks⟩, hnames, ?_⟩
  rw [hnames]
  exact List.nodup_singleton _

end Generator

end SchemaMigration
