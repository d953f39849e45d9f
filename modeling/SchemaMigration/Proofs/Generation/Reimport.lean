import SchemaMigration.Proofs.Generation.ArchiveEffects
import SchemaMigration.Proofs.Generation.StoredSnapshot
import SchemaMigration.Proofs.KeyedEntries
import SchemaMigration.Schema.Storage

/-!
# `SchemaMigration.Proofs.Generation.Reimport`: a schema that is loaded from its archive

An archive has the snapshot of its schema as one of its entries. The snapshot is the text that the
schema was read from, or else its written model. Either way it is a document of the model
(`ofText_snapshot`). So the schema that is loaded from an archive has the model of the run, and
the snapshot as its text. Its own snapshot is that text again, by the other of the two ways if the
first schema had none.

A run looks at nothing of a schema but its model and its snapshot (`generateArchive_congr`). With
a time of its own in the settings it does not look at the clock either. So a run of the loaded
schema writes the same archive (`generateArchive_reimported`), over and over.
-/

set_option autoImplicit false

namespace SchemaMigration

open SchemaMigration.Calendar
open SchemaMigration.Json (cutInto_indented)
open SchemaMigration.Number (Binary64)
open SchemaMigration.Outcome

variable {after : FileTree} {path text : String} {entries : ArchiveEntries}

/-! ### The snapshot is read -/

/-- The snapshot of a schema that was read from a text, or has none, is read as the schema. -/
theorem Schema.ofText_snapshot {schema : Schema} (h : (∃ text, Schema.ofText text = .ok schema) ∨
      schema.source = none ∧ schema.DefaultsReadBack) :
    Schema.ofText schema.snapshot =
      .ok { schema.toModel with source := some schema.snapshot } := by
  rcases h with ⟨text, htext⟩ | ⟨hnone, hdefaults⟩
  · have hsource := source_of_ofText htext
    have hsnapshot : schema.snapshot = text := by
      rw [snapshot, hsource, Option.getD_some]
    rw [hsnapshot, htext, ← hsource]
  · have hsnapshot : schema.snapshot = schema.toText := by
      rw [snapshot, hnone, Option.getD_none]
    rw [hsnapshot]
    exact ofText_of_cutInto (cutInto_indented (readable_model hdefaults) 0)

/-- An entry is found by its name among the members of an archive. -/
theorem find?_members (entries : ArchiveEntries) (name : String) :
    (ArchiveMember.ofEntries entries).find? (fun member => member.name = name) =
      (entries.lookup name).map (ArchiveMember.ofEntry name) := by
  induction entries with
  | nil => rfl
  | cons first rest ih =>
    obtain ⟨other, text⟩ := first
    have hcons : ArchiveMember.ofEntries ((other, text) :: rest) =
        .ofEntry other text :: ArchiveMember.ofEntries rest := rfl
    rw [hcons, List.find?_cons, List.lookup_cons]
    by_cases hname : other = name
    · subst hname
      simp [ArchiveMember.ofEntry]
    · have hmiss : (name == other) = false := by simpa using Ne.symm hname
      rw [hmiss, ← ih]
      simp [ArchiveMember.ofEntry, hname]

/-- The schema of an archive is read from the entry with the name of the snapshot. Nothing is
changed by that. -/
theorem Schema.run_loadFromArchive
    (hread : after.readArchive path = .ok (ArchiveMember.ofEntries entries))
    (hsnapshot : entries.lookup snapshotName = some text) :
    (Schema.loadFromArchive (m := StateM FileTree) path).run.run after =
      (Schema.ofText text, after) := by
  have hmembers : (Storage.readArchive path : StateM FileTree _).run after =
      (.ok (ArchiveMember.ofEntries entries), after) := by
    rw [← hread]
    rfl
  unfold Schema.loadFromArchive
  rw [run_bind_of_ok (run_attempt hmembers _), find?_members, hsnapshot]
  rfl

namespace Generator

variable {config : Config} {schema loaded : Schema} {now : Moment} {tree : FileTree}
  {archive : GeneratedArchive}

/-! ### The run is made again -/

/-- A run looks at the model and the snapshot of a schema only, and at the clock only without a
time in the settings. -/
theorem generateArchive_congr {m : Type → Type} [Monad m] [Storage m] {base : Moment}
    (hbase : config.baseTime = some base) (hmodel : loaded.toModel = schema.toModel)
    (hsnapshot : loaded.snapshot = schema.snapshot) (now later : Moment) :
    generateArchive (m := m) config later loaded = generateArchive config now schema := by
  have hproduce : produce config later loaded = produce config now schema := by
    rw [produce_eq_of_baseTime hbase later now]
    unfold produce finalize
    rw [hmodel, hsnapshot]
  unfold generateArchive
  rw [hmodel, hproduce]

/-- The snapshot of the schema is the entry with its name. -/
theorem lookup_snapshot {output : Collection} (h : generate config now schema = .ok output) :
    (output.files.map Artifact.toEntry).lookup snapshotName = some schema.snapshot := by
  obtain ⟨-, -, _, tableFiles, relationFiles, -, hproduced⟩ := produced_of_generate h rfl
  rw [hproduced.artifacts_eq, List.map_append]
  refine Keyed.lookup_append_last ?_
  rw [Artifact.map_fst_toEntry]
  exact hproduced.sequenced.snapshotName_not_mem

/-- The schema of an archive is loaded from it, and generates the archive again.

The schema of the first run was read from a document, or it was built and the doubles among its
defaults survive in a document. The loaded schema has the text of the entry as its source. With the
same settings it is run as the first one in every storage, whenever that is. So wherever its
archive can be written, it has the same entries. -/
theorem generateArchive_reimported {base : Moment} (hbase : config.baseTime = some base)
    (hschema : (∃ text, Schema.ofText text = .ok schema) ∨
      schema.source = none ∧ schema.DefaultsReadBack)
    (hrun : (generateArchive (m := StateM FileTree) config now schema).run.run tree =
      (.ok archive, after)) :
    ∃ (entries : ArchiveEntries) (loaded : Schema),
      after.readArchive archive.path = .ok (ArchiveMember.ofEntries entries) ∧
      entries.map Prod.fst = archive.entries ∧
      entries.lookup snapshotName = some schema.snapshot ∧
      (Schema.loadFromArchive (m := StateM FileTree) archive.path).run.run after =
        (.ok loaded, after) ∧
      loaded.source = some schema.snapshot ∧
      (∀ {m : Type → Type} [Monad m] [Storage m] (later : Moment),
        generateArchive (m := m) config later loaded = generateArchive config now schema) ∧
      (∀ later before again last, (generateArchive (m := StateM FileTree) config later
          loaded).run.run before = (.ok again, last) →
        again = archive ∧ last.readArchive archive.path = after.readArchive archive.path) ∧
      ∀ later before temporary opened, OpensArchive before config.output temporary opened →
        ∃ last, (generateArchive (m := StateM FileTree) config later loaded).run.run before =
          (.ok archive, last) := by
  obtain ⟨output, houtput, rfl, hread⟩ :=
    generateArchive_eq_ok FileTree.fallible_fileTree hrun
  have hentries : after.readArchive config.output =
      .ok (ArchiveMember.ofEntries (output.files.map Artifact.toEntry)) := by
    rw [ArchiveMember.ofEntries_toEntry]
    exact hread
  let loaded : Schema := { schema.toModel with source := some schema.snapshot }
  -- Only the snapshot and the model are read of a schema, and both are the same.
  have hagain {m : Type → Type} [Monad m] [Storage m] (later : Moment) :
      generateArchive (m := m) config later loaded = generateArchive config now schema :=
    generateArchive_congr hbase rfl rfl now later
  refine ⟨output.files.map Artifact.toEntry, loaded, hentries, ?_,
    lookup_snapshot houtput, ?_, rfl, hagain, fun later before again last hsecond => ?_,
    fun later before temporary opened hopens => ?_⟩
  · exact Artifact.map_fst_toEntry output.files
  · rw [Schema.run_loadFromArchive hentries (lookup_snapshot houtput),
      Schema.ofText_snapshot hschema]
  · rw [hagain] at hsecond
    obtain ⟨second, hsame, rfl, hlast⟩ :=
      generateArchive_eq_ok FileTree.fallible_fileTree hsecond
    obtain rfl := Except.ok.inj (houtput.symm.trans hsame)
    exact ⟨rfl, hlast.trans hread.symm⟩
  · obtain ⟨last, hlast, -⟩ := generateArchive_of_generate houtput hopens
    rw [hagain]
    exact ⟨last, hlast⟩

/-- A table that was added to an empty schema, with a column whose default is a double. -/
def weighedItems : Schema :=
  Schema.empty.addTable { id := .number 1, name := "items", timestamps := true } [.increments "id",
    { name := "weight", type := .double, default := (Binary64.ofDecimal? false 15 (-1)).map .real }]

/-- The archive of the added table is written, and the schema that is loaded from it has the
indented model as its text. A day later it is packed into the same archive. -/
theorem generateArchive_reimported_weighedItems :
    fixedTime.baseTime = some firstMoment ∧ weighedItems.source = none ∧
      weighedItems.DefaultsReadBack ∧ ∃ archive after loaded last,
        (generateArchive (m := StateM FileTree) fixedTime firstMoment weighedItems).run.run
          .empty = (.ok archive, after) ∧
        (Schema.loadFromArchive (m := StateM FileTree) "./migrations.zip").run.run after =
          (.ok loaded, after) ∧
        loaded.source = some weighedItems.toText ∧
        (generateArchive (m := StateM FileTree) fixedTime { firstMoment with
          day := firstMoment.day + 1 } loaded).run.run .empty = (.ok archive, last) ∧
        last.readArchive "./migrations.zip" = after.readArchive "./migrations.zip" := by
  have hbase : fixedTime.baseTime = some firstMoment := rfl
  have hdefaults : weighedItems.DefaultsReadBack := by
    unfold Model.DefaultsReadBack
    decide
  have hcheck : check fixedTime weighedItems.toModel = .ok [] :=
    check_fixedTime_of_folded (by decide) (by decide)
  obtain ⟨output, houtput⟩ := exists_generate_fixedTime hcheck (by decide)
  obtain ⟨after, hrun, -⟩ := generateArchive_of_generate houtput opensArchive_empty
  obtain ⟨entries, loaded, -, -, -, hload, hsource, -, hsame, hagain⟩ :=
    generateArchive_reimported hbase (.inr ⟨rfl, hdefaults⟩) hrun
  obtain ⟨last, hlast⟩ :=
    hagain { firstMoment with day := firstMoment.day + 1 } _ _ _ opensArchive_empty
  exact ⟨hbase, rfl, hdefaults, _, after, loaded, last, hrun, hload, hsource, hlast,
    (hsame _ _ _ _ hlast).2⟩

end Generator

end SchemaMigration
