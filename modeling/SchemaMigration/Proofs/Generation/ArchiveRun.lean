import SchemaMigration.Proofs.Archive.WriterHistory
import SchemaMigration.Proofs.Generation.Output

/-!
# `SchemaMigration.Proofs.Generation.ArchiveRun`: an archive has what memory has

A run makes its artifacts without a look at where they go. Kept in memory or packed
into an archive, they are offered to a sink that refuses a path which it has already
taken. The paths of a run are distinct, so neither sink refuses any, and the two runs
end alike: `generateArchive_of_generate` and `generateArchive_of_generate_error` say so of two
runs at one time, and `generateArchive_refines` of two runs at different ones.

The archive is opened by the first artifact. A run that makes none ends before the
storage is asked for anything, and a run that stops in the middle drops the archive
that it had opened. Both report the error of the run in memory.

The current time is an argument of a run. Two runs with the same settings start at
different moments, so they can only make the same files when the settings have a time
of their own. `produce_eq_of_baseTime` is the one place where this is used.
-/

set_option autoImplicit false

namespace SchemaMigration.Generator

open SchemaMigration.Calendar
open SchemaMigration.Outcome

variable {config : Config} {schema : Schema} {tree opened : FileTree} {temporary : String}

/-- With a fixed time the current one makes no difference. -/
theorem produce_eq_of_baseTime {base : Moment} (hbase : config.baseTime = some base)
    (now later : Moment) (schema : Schema) :
    produce config now schema = produce config later schema := by
  unfold produce
  rw [hbase]
  rfl

/-- With a fixed time the run in memory makes the same at any time. -/
theorem generate_eq_of_baseTime {base : Moment} (hbase : config.baseTime = some base)
    (now later : Moment) (schema : Schema) :
    generate config now schema = generate config later schema := by
  unfold generate
  rw [produce_eq_of_baseTime hbase now later]

/-- A run that reaches its end has made something. -/
theorem Accepted.artifacts_ne_nil (h : Accepted config schema.toModel) {now : Moment}
    (hend : (produce config now schema).outcome = .ok ()) :
    (produce config now schema).artifacts ≠ [] := by
  obtain ⟨-, assembler, tableFiles, relationFiles, -, hproduced⟩ := produced_of_outcome h rfl hend
  rw [hproduced.artifacts_eq]
  simp

variable {warnings : List String} {now : Moment} {output : Collection}

/-- A check that passes leaves the storage as it is. -/
theorem run_check {σ : Type} (hcheck : check config schema.toModel = .ok warnings) (s : σ) :
    (ExceptT.mk (pure (check config schema.toModel)) :
      ExceptT Error (StateM σ) _).run.run s = (.ok warnings, s) := by
  rw [hcheck]
  rfl

/-- Where the storage of an archive works, a writer takes in whatever a run of an accepted model
makes. -/
theorem exists_offer_of_check (site : ArchiveSite tree config.output)
    (hcheck : check config schema.toModel = .ok warnings) (now : Moment) :
    ∃ writer left, (Production.offer (m := StateM FileTree) ArchiveWriter.accept
        (.new config.output) (produce config now schema).artifacts).run tree =
          ((writer, .ok ()), left) ∧
      ArchiveWriter.Standing site false
        ((produce config now schema).artifacts.map Artifact.toEntry) writer left := by
  have hnew : ArchiveWriter.Standing site false (([] : List Artifact).map Artifact.toEntry)
      (.new config.output) tree := .idle
  exact hnew.exists_offer ((accepted_of_check hcheck).nodup_paths now)

/-- A run that stops reports its error, whatever the archive has taken in by then, and leaves no
file. -/
theorem generateArchive_of_error {error : Error}
    (hcheck : check config schema.toModel = .ok warnings)
    (h : OpensArchive tree config.output temporary opened)
    (hstop : (produce config now schema).outcome = .error error) :
    ∃ after, (generateArchive (m := StateM FileTree) config now schema).run.run tree =
      (.error error, after) ∧ tree.AddsDirectories after := by
  obtain ⟨site, -⟩ := ArchiveSite.exists_of_opensArchive h
  -- What had been made is taken in without a refusal, so the error is that of the production.
  obtain ⟨writer, left, hoffer, hstanding⟩ := exists_offer_of_check site hcheck now
  obtain ⟨dropped, hdrop, -, hadds⟩ := hstanding.dropped
  unfold generateArchive
  rw [run_bind_of_ok (run_check hcheck tree), run_bind_of_ok (run_lift (run_into hoffer)), hstop]
  dsimp only
  rw [run_bind_of_ok (run_lift hdrop)]
  exact ⟨dropped, rfl, hadds⟩

/-- A run that reaches its end puts its artifacts at the target. -/
theorem generateArchive_of_ok (hcheck : check config schema.toModel = .ok warnings)
    (h : OpensArchive tree config.output temporary opened)
    (hend : (produce config now schema).outcome = .ok ()) :
    ∃ after, (generateArchive (m := StateM FileTree) config now schema).run.run tree =
        (.ok ⟨config.output, (produce config now schema).artifacts.map (·.path), warnings⟩, after) ∧
      after.readArchive config.output = .ok ((produce config now schema).artifacts.map
        fun file => ArchiveMember.ofEntry file.path file.content) := by
  obtain ⟨site, -⟩ := ArchiveSite.exists_of_opensArchive h
  obtain ⟨writer, left, hoffer, hstanding⟩ := exists_offer_of_check site hcheck now
  have hread := site.readArchive_placed ((produce config now schema).artifacts.map Artifact.toEntry)
  rw [ArchiveMember.ofEntries_toEntry] at hread
  refine ⟨_, ?_, hread⟩
  unfold generateArchive
  rw [run_bind_of_ok (run_check hcheck tree), run_bind_of_ok (run_lift (run_into hoffer)), hend]
  dsimp only
  rw [run_bind_of_ok (run_lift hstanding.close_eq)]
  dsimp only
  -- The archive is at its target by now, so there is nothing left for `drop` to discard.
  rw [run_bind_of_ok (run_lift (ArchiveWriter.run_drop_of_closed rfl _)), Artifact.map_fst_toEntry]
  rfl

/-- Where the storage works, what is made in memory can be packed into an archive. -/
theorem generateArchive_of_generate (h : generate config now schema = .ok output)
    (hopens : OpensArchive tree config.output temporary opened) :
    ∃ after, (generateArchive (m := StateM FileTree) config now schema).run.run tree =
        (.ok ⟨config.output, output.files.map (·.path), output.warnings⟩, after) ∧
      after.readArchive config.output =
        .ok (output.files.map fun file => ArchiveMember.ofEntry file.path file.content) := by
  obtain ⟨hcheck, hrun⟩ := generate_eq_ok_iff.1 h
  have harchive := generateArchive_of_ok hcheck hopens (congrArg Production.outcome hrun)
  rwa [hrun] at harchive

/-- Where the storage works, a run into an archive fails the way the run in memory does, and leaves
no file. -/
theorem generateArchive_of_generate_error {error : Error}
    (h : generate config now schema = .error error)
    (hopens : OpensArchive tree config.output temporary opened) :
    ∃ after, (generateArchive (m := StateM FileTree) config now schema).run.run tree =
      (.error error, after) ∧ tree.AddsDirectories after := by
  rcases generate_eq_error_iff.1 h with hrefused | ⟨⟨warnings, hcheck⟩, hstop⟩
  · -- The archive is not opened before the check has passed.
    refine ⟨tree, ?_, .refl tree⟩
    rw [generateArchive, hrefused]
    rfl
  · exact generateArchive_of_error hcheck hopens hstop

/-- In a tree where the storage of an archive works, a run into an archive succeeds when the run
in memory does, with the same files in the same order and the same warnings, and it fails with
the same error. The two runs may start at different times. -/
theorem generateArchive_refines (config : Config) (schema : Schema) (now later : Moment)
    {base : Moment} (hbase : config.baseTime = some base)
    (h : OpensArchive tree config.output temporary opened) :
    (∀ collection, generate config now schema = .ok collection → ∃ after,
      (generateArchive (m := StateM FileTree) config later schema).run.run tree =
        (.ok ⟨config.output, collection.files.map (·.path), collection.warnings⟩, after) ∧
      after.readArchive config.output =
        .ok (collection.files.map fun file => ArchiveMember.ofEntry file.path file.content)) ∧
    ∀ error, generate config now schema = .error error → ∃ after,
      (generateArchive (m := StateM FileTree) config later schema).run.run tree =
        (.error error, after) := by
  rw [generate_eq_of_baseTime hbase now later]
  refine ⟨fun collection hmemory => generateArchive_of_generate hmemory h, fun error hmemory => ?_⟩
  obtain ⟨after, hrun, -⟩ := generateArchive_of_generate_error hmemory h
  exact ⟨after, hrun⟩

/-- An empty working directory can take an archive. -/
theorem opensArchive_empty : OpensArchive .empty fixedTime.output "./.tmp000000"
    { entries := [([".tmp000000"], .unfinished [])] } :=
  ⟨⟨.empty, by decide, by decide +kernel⟩, by decide +kernel⟩

/-- The schema with two tables is packed into an archive in an empty working directory. -/
theorem generateArchive_refines_empty :
    fixedTime.baseTime = some firstMoment ∧
      OpensArchive .empty fixedTime.output "./.tmp000000"
        { entries := [([".tmp000000"], .unfinished [])] } ∧
      ∃ output after, generate fixedTime firstMoment sharedSchema = .ok output ∧
        (generateArchive (m := StateM FileTree) fixedTime firstMoment sharedSchema).run.run .empty =
          (.ok ⟨"./migrations.zip", output.files.map (·.path), output.warnings⟩, after) ∧
        after.readArchive "./migrations.zip" =
          .ok (output.files.map fun file => ArchiveMember.ofEntry file.path file.content) := by
  obtain ⟨output, houtput⟩ := exists_generate_sharedGroup
  have hbase : fixedTime.baseTime = some firstMoment := rfl
  obtain ⟨after, hrun, hread⟩ := (generateArchive_refines fixedTime sharedSchema firstMoment
    firstMoment hbase opensArchive_empty).1 output houtput
  exact ⟨hbase, opensArchive_empty, output, after, houtput, hrun, hread⟩

end SchemaMigration.Generator
