import SchemaMigration.Proofs.Generation.Run

/-!
# `SchemaMigration.Proofs.Generation.Gathering`: the artifacts of a run are taken in

The paths of the artifacts of a run are distinct, also when the run stops in the
middle (`Accepted.nodup_paths`). So a collection, which refuses a path that it has,
refuses none of them (`Collection.offer_take`), and a run in memory ends the way its
production does (`generate_eq`, `generate_eq_ok_iff`).
-/

set_option autoImplicit false

namespace SchemaMigration

open SchemaMigration.Calendar
open SchemaMigration.Outcome

/-! ### Distinct paths -/

namespace Generator

variable {base : Moment} {config : Config} {schema : Schema} {assembler : Assembler}
  {tableFiles relationFiles artifacts : List Artifact}

/-- The migrations have distinct paths, and none of them is that of the snapshot. -/
theorem Produced.nodup_paths (hstep : 1 ≤ config.stepSeconds.toInt)
    (h : Produced base config schema assembler tableFiles relationFiles artifacts) :
    (artifacts.map (·.path)).Nodup := by
  rw [h.artifacts_eq, List.map_append, List.nodup_append]
  -- Among themselves the migrations differ by their keys. The snapshot has none.
  refine ⟨h.sequenced.nodup_paths hstep, by simp, ?_⟩
  intro path hpath name hname heq
  have hsnapshot : name = snapshotName := by simpa [Artifact.snapshot] using hname
  exact h.sequenced.snapshotName_not_mem (hsnapshot ▸ heq ▸ hpath)

/-- Whatever a run makes of an accepted model has distinct paths. -/
theorem Accepted.nodup_paths (h : Accepted config schema.toModel) (now : Moment) :
    ((produce config now schema).artifacts.map (·.path)).Nodup := by
  rcases produce_cases now h rfl with ⟨-, _, _, _, _, -, hrun, hproduced⟩ |
    ⟨-, files, _, hrun, hsequenced, -⟩ | ⟨-, _, hrun⟩
  · rw [hrun]
    exact hproduced.nodup_paths h.one_le_step
  · rw [hrun]
    exact hsequenced.nodup_paths h.one_le_step
  · rw [hrun]
    simp

end Generator

/-! ### A collection -/

namespace Collection

/-- A file with a new path is added. -/
theorem accept_eq_ok {c : Collection} {file : Artifact} (h : file.path ∉ c.files.map (·.path)) :
    c.accept file = .ok (c.add file) := by
  unfold accept
  refine if_neg fun hany => h ?_
  obtain ⟨other, hother, hpath⟩ := List.any_eq_true.1 hany
  exact List.mem_map.2 ⟨other, hother, eq_of_beq hpath⟩

theorem take_of_new {c : Collection} {file : Artifact} (h : file.path ∉ c.files.map (·.path)) :
    c.take file = (.ok (), c.add file) := by
  rw [take, accept_eq_ok h]

/-- Files with new and distinct paths are all taken. -/
theorem offer_take {c : Collection} {files : List Artifact} (hnodup : (files.map (·.path)).Nodup)
    (hnew : ∀ file ∈ files, file.path ∉ c.files.map (·.path)) :
    Production.offer (m := Id) take c files = ({ c with files := c.files ++ files }, .ok ()) := by
  induction files generalizing c with
  | nil =>
    rw [List.append_nil]
    rfl
  | cons file rest ih =>
    rw [List.map_cons, List.nodup_cons] at hnodup
    -- The collection has `file` now. A later path is neither an old one nor that of `file`.
    have hrest : ∀ other ∈ rest, other.path ∉ (c.add file).files.map (·.path) := by
      intro other hother hmem
      rw [add, List.map_append, List.mem_append, List.map_singleton, List.mem_singleton] at hmem
      rcases hmem with hmem | heq
      · exact hnew other (List.mem_cons_of_mem file hother) hmem
      · exact hnodup.1 (heq ▸ List.mem_map_of_mem hother)
    have htaken := take_of_new (hnew file List.mem_cons_self)
    have hothers := ih hnodup.2 hrest
    rw [add, List.append_assoc, List.singleton_append] at hothers
    rw [Production.offer]
    simp only [htaken]
    exact hothers

end Collection

namespace Generator

variable {config : Config} {schema : Schema} {warnings : List String}

/-- A run in memory of an accepted model has the artifacts of its production, and fails the way
that does. -/
theorem generate_eq (hcheck : check config schema.toModel = .ok warnings) (now : Moment) :
    generate config now schema = (produce config now schema).outcome.map fun _ =>
      { files := (produce config now schema).artifacts, warnings } := by
  have hempty : ∀ file ∈ (produce config now schema).artifacts,
      file.path ∉ ({ warnings } : Collection).files.map (·.path) := by simp
  have hoffer := Collection.offer_take ((accepted_of_check hcheck).nodup_paths now) hempty
  -- The collection takes in everything, so only the end of the production is left to tell.
  unfold generate
  rw [hcheck, ok_bind]
  simp only [Production.into, hoffer]
  cases (produce config now schema).outcome <;> rfl

/-- A run in memory succeeds when the check passes and the production reaches its end. It has the
warnings of the one and the artifacts of the other. -/
theorem generate_eq_ok_iff {now : Moment} {output : Collection} :
    generate config now schema = .ok output ↔
      check config schema.toModel = .ok output.warnings ∧
        produce config now schema = ⟨output.files, .ok ()⟩ := by
  constructor
  · intro h
    obtain ⟨warnings, hcheck, -⟩ := bind_eq_ok_iff.1 h
    rw [generate_eq hcheck] at h
    cases hrun : produce config now schema with
    | mk artifacts outcome =>
      rw [hrun] at h
      cases outcome with
      | error error => cases h
      | ok _ =>
        obtain rfl := Except.ok.inj h
        exact ⟨hcheck, rfl⟩
  · rintro ⟨hcheck, hrun⟩
    rw [generate_eq hcheck, hrun]
    rfl

/-- It fails as the check does, or as the production does after a check that passes. -/
theorem generate_eq_error_iff {now : Moment} {error : Error} :
    generate config now schema = .error error ↔
      check config schema.toModel = .error error ∨
        (∃ warnings, check config schema.toModel = .ok warnings) ∧
          (produce config now schema).outcome = .error error := by
  cases hcheck : check config schema.toModel with
  | error refusal =>
    have hrun : generate config now schema = .error refusal := by
      rw [generate, hcheck]
      rfl
    simp [hrun]
  | ok warnings =>
    rw [generate_eq hcheck]
    cases (produce config now schema).outcome <;> simp [Except.map]

/-- A run in memory that succeeds has the artifacts of a production that reached its end. -/
theorem produced_of_generate {base : Moment} {now : Moment} {output : Collection}
    (h : generate config now schema = .ok output) (hbase : config.baseTime.getD now = base) :
    Accepted config schema.toModel ∧ config.stepSeconds.toInt ≤ Sequencer.maxStep ∧
      ∃ assembler tableFiles relationFiles,
        Assembler.ofExtension config.extension = .ok assembler ∧
        Produced base config schema assembler tableFiles relationFiles output.files := by
  obtain ⟨hcheck, hrun⟩ := generate_eq_ok_iff.1 h
  have haccepted := accepted_of_check hcheck
  have hproduced := produced_of_outcome haccepted hbase (congrArg Production.outcome hrun)
  rw [hrun] at hproduced
  exact ⟨haccepted, hproduced⟩

end Generator

end SchemaMigration
