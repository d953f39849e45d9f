import SchemaMigration.Proofs.CommandLine.InspectedArchive
import SchemaMigration.Proofs.Generation.NewDirectory

/-!
# `SchemaMigration.Proofs.CommandLine.PreviewedFiles`: a preview and the files that come of it

A preview and the two forms of generating are given the same schema and the same flags
(`PreviewArguments.intoDirectory`, `PreviewArguments.intoArchive`). They read the same inputs, so
all of them stop there for the same reason, or they go on with the same run in memory. What the
preview prints of this run the others put into a directory or an archive, and its error is theirs
(`generate_previewed`).

The commands are run one at a time, each from the same files. The clock may have moved on between
them, which is why the settings have a base time.
-/

set_option autoImplicit false

namespace SchemaMigration.CommandLine

open Console
open SchemaMigration.Calendar
open SchemaMigration.Generator (generate fixedTime firstMoment)

/-! ### Commands with the same flags -/

namespace PreviewArguments

/-- Generates into a directory what is previewed. -/
def intoDirectory (p : PreviewArguments) (directory : String) : GenerateArguments where
  schema := p.schema
  directory := some directory
  baseTime := p.baseTime
  lenientForeignKeys := p.lenientForeignKeys

/-- Generates into an archive what is previewed. -/
def intoArchive (p : PreviewArguments) (archive : String) : GenerateArguments where
  schema := p.schema
  output := some archive
  baseTime := p.baseTime
  lenientForeignKeys := p.lenientForeignKeys

variable {p : PreviewArguments}

theorem applyTo_intoDirectory (p : PreviewArguments) (directory : String) (settings : Config) :
    (p.intoDirectory directory).applyTo settings = p.applyTo settings := by
  rw [GenerateArguments.applyTo, applyTo, intoDirectory]
  simp

theorem applyTo_intoArchive (p : PreviewArguments) (archive : String) (settings : Config) :
    (p.intoArchive archive).applyTo settings = { p.applyTo settings with output := archive } := by
  rw [GenerateArguments.applyTo, applyTo, intoArchive]
  cases p.lenientForeignKeys <;> simp [withLenient]

end PreviewArguments

theorem runGenerate_intoDirectory (p : PreviewArguments) (directory : String)
    (config : Option String) (now : Moment) :
    runGenerate (m := StateM FileTree) (p.intoDirectory directory) config now =
      withInputs config p.schema fun settings schema =>
        store directory (p.applyTo settings).overwrite
          (generate (p.applyTo settings) now schema) := by
  rw [runGenerate_eq_store rfl]
  simp only [PreviewArguments.applyTo_intoDirectory]
  rfl

theorem runGenerate_intoArchive (p : PreviewArguments) (archive : String)
    (config : Option String) (now : Moment) :
    runGenerate (m := StateM FileTree) (p.intoArchive archive) config now =
      withInputs config p.schema fun settings schema =>
        pack { p.applyTo settings with output := archive } now schema := by
  rw [runGenerate_eq_pack rfl]
  simp only [PreviewArguments.applyTo_intoArchive]
  rfl

/-- A run in memory does not depend on where its files go. -/
theorem generate_output (config : Config) (archive : String) (now : Moment) (schema : Schema) :
    generate { config with output := archive } now schema = generate config now schema := rfl

variable {p : PreviewArguments} {config : Option String} {verbose : Bool} {settings : Config}
  {schema : Schema} {now later latest : Moment} {tree opened after : FileTree}
  {output : Collection} {directory archive temporary : String} {told : Transcript}
  {failure : Failure}

/-! ### The same run, three times -/

/-- What is previewed can be written to a directory. -/
theorem exists_intoDirectory (hinputs : Inputs config p.schema tree settings schema)
    (houtput : generate (p.applyTo settings) now schema = .ok output)
    (hopens : OpensDirectory tree directory (output.migrations.map (·.path))) :
    ∃ told place after, (runGenerate (p.intoDirectory directory) config now).perform {} tree =
        ((.ok (), told), after) ∧ output.Written directory place tree after := by
  obtain ⟨paths, after, hwrite⟩ := hopens.exists_run (p.applyTo settings).overwrite
  obtain ⟨-, -, _, place, -, -, hwritten⟩ := Generator.written_of_generate houtput hwrite
  obtain ⟨told, hstore⟩ := exists_perform_store hwrite
  refine ⟨told, place, after, ?_, hwritten⟩
  rw [runGenerate_intoDirectory, hinputs.perform_withInputs, houtput]
  exact hstore

/-- What is previewed can be packed into an archive. -/
theorem exists_intoArchive (hinputs : Inputs config p.schema tree settings schema)
    (houtput : generate (p.applyTo settings) now schema = .ok output)
    (hopens : OpensArchive tree archive temporary opened) :
    ∃ told after, (runGenerate (p.intoArchive archive) config now).perform {} tree =
        ((.ok (), told), after) ∧
      after.readArchive archive =
        .ok (output.files.map fun file => ArchiveMember.ofEntry file.path file.content) := by
  rw [← generate_output _ archive] at houtput
  obtain ⟨after, hrun, hread⟩ := Generator.generateArchive_of_generate houtput hopens
  obtain ⟨told, hpack⟩ := exists_perform_pack hrun
  refine ⟨told, after, ?_, hread⟩
  rw [runGenerate_intoArchive, hinputs.perform_withInputs]
  exact hpack

/-- An error of the run is reported before a directory is made. -/
theorem perform_intoDirectory_of_error {error : Error}
    (hinputs : Inputs config p.schema tree settings schema)
    (herror : generate (p.applyTo settings) now schema = .error error) :
    (runGenerate (p.intoDirectory directory) config now).perform {} tree =
      ((.error ⟨[], .error error⟩, {}), tree) := by
  rw [runGenerate_intoDirectory, hinputs.perform_withInputs, herror]
  exact perform_store_of_error ..

/-- An error of the run is that of packing an archive, and leaves no file. -/
theorem exists_intoArchive_of_error {error : Error}
    (hinputs : Inputs config p.schema tree settings schema)
    (herror : generate (p.applyTo settings) now schema = .error error)
    (hopens : OpensArchive tree archive temporary opened) :
    ∃ told after, (runGenerate (p.intoArchive archive) config now).perform {} tree =
        ((.error ⟨[s!"failed to generate {archive}"], .error error⟩, told), after) ∧
      tree.AddsDirectories after := by
  rw [← generate_output _ archive] at herror
  obtain ⟨after, hrun, hadds⟩ := Generator.generateArchive_of_generate_error herror hopens
  obtain ⟨told, hpack⟩ := exists_perform_pack hrun
  refine ⟨told, after, ?_, hadds⟩
  rw [runGenerate_intoArchive, hinputs.perform_withInputs]
  exact hpack

/-- A run in memory that succeeds is printed. -/
theorem perform_runPreview (hfile : p.file = none)
    (hinputs : Inputs config p.schema tree settings schema)
    (houtput : generate (p.applyTo settings) now schema = .ok output) :
    (runPreview p config now).perform {} tree = ((.ok (), printed output), tree) := by
  rw [runPreview_eq hfile, hinputs.perform_withInputs, houtput]
  exact perform_display_of_ok output tree

/-- A preview that succeeds is of a run that does. -/
theorem exists_generate_of_runPreview (hfile : p.file = none)
    (h : (runPreview p config now).perform {} tree = ((.ok (), told), after)) :
    ∃ settings schema output, Inputs config p.schema tree settings schema ∧
      generate (p.applyTo settings) now schema = .ok output := by
  rw [runPreview_eq hfile] at h
  obtain ⟨settings, schema, hinputs, hdisplay⟩ := exists_inputs_of_withInputs h
  cases houtput : generate (p.applyTo settings) now schema with
  | ok output => exact ⟨settings, schema, output, hinputs, houtput⟩
  | error error =>
    rw [houtput, perform_display_of_error] at hdisplay
    cases hdisplay

/-- A preview that fails has not got its inputs, like every other command that asks for them, or has
the error of the run. -/
theorem runPreview_error_cases (hfile : p.file = none)
    (h : (runPreview p config now).perform {} tree = ((.error failure, told), after)) :
    after = tree ∧
      ((∀ rest, (withInputs config p.schema rest).perform {} tree = ((.error failure, {}), tree)) ∨
        ∃ settings schema error, Inputs config p.schema tree settings schema ∧
          generate (p.applyTo settings) now schema = .error error ∧
          failure = ⟨[], .error error⟩) := by
  rw [runPreview_eq hfile] at h
  -- The error comes from the inputs, where every command with the same flags has it, or from the
  -- run.
  rcases exists_inputs_or_failure config p.schema tree with
    ⟨settings, schema, hinputs⟩ | ⟨reason, hreason⟩
  · rw [hinputs.perform_withInputs] at h
    cases houtput : generate (p.applyTo settings) now schema with
    | ok output =>
      rw [houtput, perform_display_of_ok] at h
      cases h
    | error error =>
      rw [houtput, perform_display_of_error] at h
      cases h
      exact ⟨rfl, .inr ⟨settings, schema, error, hinputs, houtput, rfl⟩⟩
  · rw [hreason] at h
    cases h
    exact ⟨rfl, .inl hreason⟩

/-- A preview succeeds when the run in memory does, and prints its files. Generating into a new
directory then writes the files but the snapshot, and generating into an archive packs all of them
in the order in which they are printed. When a preview fails, both fail for the same cause, and
none of them writes a file. Each command may be run at its own time. -/
theorem generate_previewed (hfile : p.file = none)
    (hbase : ∀ settings, (resolveConfig (m := StateM FileTree) config).answer tree = .ok settings →
      ∃ base, (p.applyTo settings).baseTime = some base) :
    ((∃ told after, Invocation.runIn ⟨.preview p, config, verbose⟩ now tree =
          ((.ok (), told), after)) ↔
        ∃ settings schema output, Inputs config p.schema tree settings schema ∧
          generate (p.applyTo settings) now schema = .ok output) ∧
      (∀ settings schema output, Inputs config p.schema tree settings schema →
        generate (p.applyTo settings) now schema = .ok output →
          Invocation.runIn ⟨.preview p, config, verbose⟩ now tree =
              ((.ok (), printed output), tree) ∧
            output.migrations = output.files.filter (·.path != snapshotName) ∧
            (OpensDirectory tree directory (output.migrations.map (·.path)) →
              ∃ told place after,
                Invocation.runIn ⟨.generate (p.intoDirectory directory), config, verbose⟩ later
                    tree = ((.ok (), told), after) ∧
                  output.Written directory place tree after) ∧
            (OpensArchive tree archive temporary opened →
              ∃ told after,
                Invocation.runIn ⟨.generate (p.intoArchive archive), config, verbose⟩ latest tree =
                    ((.ok (), told), after) ∧
                  after.readArchive archive = .ok (output.files.map fun file =>
                    ArchiveMember.ofEntry file.path file.content))) ∧
      ∀ failure told after,
        Invocation.runIn ⟨.preview p, config, verbose⟩ now tree =
            ((.error failure, told), after) →
          after = tree ∧
            Invocation.runIn ⟨.generate (p.intoDirectory directory), config, verbose⟩ later tree =
              ((.error failure, {}), tree) ∧
            (OpensArchive tree archive temporary opened →
              ∃ other told after,
                Invocation.runIn ⟨.generate (p.intoArchive archive), config, verbose⟩ latest tree =
                    ((.error other, told), after) ∧
                  other.cause = failure.cause ∧ tree.AddsDirectories after) := by
  -- With a base time of its own a run does not look at the clock.
  have hsame {settings : Config} {schema : Schema} (h : Inputs config p.schema tree settings schema)
      (other : Moment) :
      generate (p.applyTo settings) other schema = generate (p.applyTo settings) now schema := by
    obtain ⟨base, hbase⟩ := hbase settings h.settings
    exact Generator.generate_eq_of_baseTime hbase other now schema
  refine ⟨⟨fun ⟨told, after, hrun⟩ => exists_generate_of_runPreview hfile hrun, ?_⟩, ?_, ?_⟩
  · rintro ⟨settings, schema, output, hinputs, houtput⟩
    exact ⟨_, _, perform_runPreview hfile hinputs houtput⟩
  · intro settings schema output hinputs houtput
    refine ⟨perform_runPreview hfile hinputs houtput, Generator.migrations_eq_filter houtput,
      fun hopens => ?_, fun hopens => ?_⟩
    · exact exists_intoDirectory hinputs ((hsame hinputs later).trans houtput) hopens
    · exact exists_intoArchive hinputs ((hsame hinputs latest).trans houtput) hopens
  · -- Either no command gets its inputs, or the run has an error whichever command makes it.
    intro failure told after hrun
    obtain ⟨rfl, hinputs | ⟨settings, schema, error, hinputs, herror, rfl⟩⟩ :=
      runPreview_error_cases hfile hrun
    · refine ⟨rfl, ?_, fun _ => ⟨failure, {}, after, ?_, rfl, .refl after⟩⟩
      · exact (congrArg (·.perform {} after) (runGenerate_intoDirectory ..)).trans (hinputs _)
      · exact (congrArg (·.perform {} after) (runGenerate_intoArchive ..)).trans (hinputs _)
    · refine ⟨rfl, ?_, fun hopens => ?_⟩
      · exact perform_intoDirectory_of_error hinputs ((hsame hinputs later).trans herror)
      · obtain ⟨told, left, harchive, hadds⟩ :=
          exists_intoArchive_of_error hinputs ((hsame hinputs latest).trans herror) hopens
        exact ⟨_, told, left, harchive, rfl, hadds⟩

/-! ### The project with one document -/

theorem opensDirectory_notedProject :
    OpensDirectory notedProject "out" [Generator.singleMigration.path] where
  absent := by decide
  makes := by
    refine ⟨{ entries := notedProject.entries ++ [(["out"], .directory)] }, by decide, ?_⟩
    exact List.forall_mem_singleton.2 ⟨["out", Generator.singleMigration.path], by decide +kernel⟩

/-- The document is previewed with one migration, which is written to a new directory, and packed
with the document into an archive. -/
theorem generate_previewed_notedProject :
    ∃ output told place stored other packed, output.files =
        [Generator.singleMigration, .snapshot notedDocument] ∧
      Invocation.runIn ⟨.preview { schema := "schema.json" }, none, false⟩ firstMoment
          notedProject = ((.ok (), printed output), notedProject) ∧
      Invocation.runIn ⟨.generate { schema := "schema.json", directory := some "out" }, none,
          false⟩ firstMoment notedProject = ((.ok (), told), stored) ∧
      stored.get? (place ++ [Generator.singleMigration.path]) =
        some (.text Generator.singleMigration.content) ∧
      Invocation.runIn ⟨.generate { schema := "schema.json", output := some "./migrations.zip" },
          none, false⟩ firstMoment notedProject = ((.ok (), other), packed) ∧
      packed.readArchive "./migrations.zip" =
        .ok [.ofEntry Generator.singleMigration.path Generator.singleMigration.content,
          .ofEntry snapshotName notedDocument] := by
  have hbase : ∀ settings, (resolveConfig (m := StateM FileTree) none).answer notedProject =
      .ok settings → ∃ base,
        (PreviewArguments.applyTo { schema := "schema.json" } settings).baseTime = some base := by
    intro settings hsettings
    obtain rfl := Except.ok.inj (inputs_notedProject.settings.symm.trans hsettings)
    exact ⟨firstMoment, rfl⟩
  obtain ⟨-, hpreviewed, -⟩ := @generate_previewed { schema := "schema.json" } none false
    firstMoment firstMoment firstMoment notedProject _ "out" _ _ rfl hbase
  obtain ⟨hprinted, -, hdirectory, harchive⟩ :=
    hpreviewed fixedTime notedSchema _ inputs_notedProject generate_notedSchema
  obtain ⟨told, place, stored, hstored, hwritten⟩ := hdirectory opensDirectory_notedProject
  obtain ⟨other, packed, hpacked, hread⟩ := harchive opensArchive_notedProject
  exact ⟨_, told, place, stored, other, packed, rfl, hprinted, hstored,
    hwritten.texts Generator.singleMigration (List.mem_singleton_self _), hpacked, hread⟩

end SchemaMigration.CommandLine
