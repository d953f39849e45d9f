import SchemaMigration.Proofs.Archive.FailingStorage
import SchemaMigration.Proofs.Generation.ArchiveRun

/-!
# `SchemaMigration.Proofs.Generation.ArchiveEffects`: what a run into an archive changes

A run may end at any point: the settings or the schema are refused, the keys run out after
some tables, or the storage fails. Wherever it ends, the writer stands in one of its five ways
(`ArchiveWriter.Situation`), and from each of them the last step, dropping the writer or
closing it, leaves either the archive at its target or no file that was not there
(`exists_ended`, `generateArchive_effects`).

A run stops at the first entry that cannot be written. So an archive that it returns has no entry
that is there in part: it holds the files of the run in memory, in their order
(`generateArchive_eq_ok`).

Directories are the exception. The one that the archive belongs in is made before its
temporary file is, and stays when the run fails. A run that is refused has made none.
-/

set_option autoImplicit false

namespace SchemaMigration

open FileTree (AddsDirectories)

variable {σ : Type} [Storage (StateM σ)] {files : σ → FileTree} {s : σ} {start : FileTree}
  {target : String} {lost : Bool} {members : List ArchiveMember} {writer : ArchiveWriter}

namespace ArchiveWriter

open SchemaMigration.Outcome (ok_ne_error)

namespace Situation

variable (hfallible : Storage.Fallible files)

include hfallible

/-- A writer that is given up while its archive is not in place leaves no file that was not
there. -/
theorem adds_of_drop (h : Situation start target lost members writer (files s))
    (hopen : writer.isClosed = false) :
    AddsDirectories start (files ((writer.drop (m := StateM σ)).run s).2) := by
  have hsituation := h
  -- The files are an index of the situation, so they get a name before its cases are looked at.
  generalize hcurrent : files s = current at h
  cases h with
  | idle adds =>
    subst hcurrent
    exact adds
  | @opened _ _ temporary | @gone _ temporary =>
    have hdiscard := hsituation.adds_of_open
    rwa [← hfallible.discardTemporary] at hdiscard
  | placed | lost => cases hopen

/-- A writer that takes in artifacts is not closed by that, wherever it ends. When it has taken in
all of them, they are what has been left in its archive. -/
theorem exists_offer (h : Situation start target lost members writer (files s))
    (hopen : writer.isClosed = false) (artifacts : List Artifact) :
    ∃ final outcome after, (Production.offer (m := StateM σ) accept writer artifacts).run s =
        ((final, outcome), after) ∧ final.isClosed = false ∧
      ∃ more, Situation start target lost (members ++ more) final (files after) ∧
        (outcome = .ok () → final.names = writer.names ++ artifacts.map (·.path) ∧
          more = ArchiveMember.ofEntries (artifacts.map Artifact.toEntry)) := by
  induction artifacts generalizing lost members writer s with
  | nil =>
    refine ⟨writer, .ok (), s, rfl, hopen, [], ?_, fun _ => ⟨(List.append_nil _).symm, rfl⟩⟩
    rwa [List.append_nil]
  | cons artifact rest ih =>
    have hentry : Operation.entry? (.accept artifact) = some artifact.toEntry := rfl
    obtain ⟨answer, next, between, haccept, hnext, hanswered⟩ := h.exists_write hfallible hentry
    obtain ⟨part, hleaves, hbetween⟩ := hanswered.situation
    rw [Operation.loses_of_entry hentry, Bool.or_false] at hbetween
    rw [hopen] at hnext
    -- The first refusal ends the offer. The writer stays open in either case.
    cases answer with
    | error error =>
      exact ⟨next, .error error, between, run_offer_of_error haccept rest, hnext, part, hbetween,
        fun hok => absurd hok.symm ok_ne_error⟩
    | ok _ =>
      obtain rfl := hleaves.eq_ofEntries rfl
      obtain ⟨final, outcome, after, hrest, hfinal, more, hsituation, hall⟩ := ih hbetween hnext
      refine ⟨final, outcome, after, (run_offer_of_ok haccept rest).trans hrest, hfinal, _,
        by rwa [← List.append_assoc], fun hok => ?_⟩
      obtain ⟨hnames, rfl⟩ := hall hok
      rw [hnames, hanswered.names_eq, List.append_assoc]
      exact ⟨rfl, rfl⟩

/-- So it ends when a production is written, by the production or by the storage. -/
theorem exists_into (h : Situation start target lost members writer (files s))
    (hopen : writer.isClosed = false) (production : Production Unit) :
    ∃ final ended after, (production.into (m := StateM σ) accept writer).run s =
        ((final, ended), after) ∧ final.isClosed = false ∧
      ∃ more, Situation start target lost (members ++ more) final (files after) ∧
        (ended = .ok () → production.outcome = .ok () ∧
          final.names = writer.names ++ production.artifacts.map (·.path) ∧
          more = ArchiveMember.ofEntries (production.artifacts.map Artifact.toEntry)) := by
  obtain ⟨final, outcome, after, hoffer, hfinal, more, hsituation, hall⟩ :=
    h.exists_offer hfallible hopen production.artifacts
  cases outcome with
  | ok _ =>
    exact ⟨final, production.outcome, after, run_into hoffer, hfinal, more, hsituation,
      fun hended => ⟨hended, hall rfl⟩⟩
  | error error =>
    exact ⟨final, .error error, after, run_into_of_error hoffer, hfinal, more, hsituation,
      fun hended => absurd hended.symm ok_ne_error⟩

end Situation

/-- A writer that is given up when a close has failed leaves no file either. -/
theorem Closing.adds_of_drop {answer : Except Error String} {next : ArchiveWriter} {after : σ}
    {error : Error} (h : Closing files start target lost members writer s answer next after)
    (hfallible : Storage.Fallible files) (herror : answer = .error error) :
    AddsDirectories start (files ((next.drop (m := StateM σ)).run after).2) := by
  cases hclosed : next.isClosed with
  | true =>
    rw [run_drop_of_closed hclosed]
    exact h.failed error herror
  | false => exact h.situation.adds_of_drop hfallible hclosed

end ArchiveWriter

namespace Generator

open SchemaMigration.Calendar
open SchemaMigration.Outcome

variable {config : Config} {schema : Schema}

/-- What a run into an archive changes in the files, for each way in which it ends. -/
structure Effects (output : String) (before : FileTree) (result : Except Error GeneratedArchive)
    (after : FileTree) : Prop where
  /-- A run that fails adds directories, at most. -/
  failed : ∀ error, result = .error error → AddsDirectories before after
  /-- Nor does it change what is at its output, unless that is a directory now. -/
  untouched : ∀ error place, result = .error error → after.writable output = .ok place →
    after.get? place = before.get? place
  /-- A run that succeeds puts its archive at the output. No other file is changed or made. -/
  succeeded : ∀ archive, result = .ok archive → archive.path = output ∧ ∃ place entries,
    after.locate output = .ok (place, some (.archive (ArchiveMember.ofEntries entries))) ∧
      entries.map Prod.fst = archive.entries ∧
      ∀ other ≠ place, after.get? other = before.get? other ∨
        before.get? other = none ∧ after.get? other = some .directory

theorem Effects.of_adds {output : String} {before after : FileTree} {error : Error}
    (hadds : AddsDirectories before after) : Effects output before (.error error) after where
  failed := fun _ _ => hadds
  untouched := fun _ _ _ hplace => hadds.get?_of_writable hplace
  succeeded := fun _ harchive => absurd harchive.symm ok_ne_error

theorem Effects.of_placed {output : String} {before after : FileTree} {entries : ArchiveEntries}
    (h : ArchiveWriter.Situation before output false (ArchiveMember.ofEntries entries) writer after)
    (hclosed : writer.isClosed = true) (warnings : List String) :
    Effects output before (.ok ⟨output, entries.map Prod.fst, warnings⟩) after where
  failed := fun _ herror => absurd herror ok_ne_error
  untouched := fun _ _ herror => absurd herror ok_ne_error
  succeeded := by
    rintro archive harchive
    obtain rfl := Except.ok.inj harchive
    obtain ⟨made, place, adds, hplace, rfl⟩ := h.exists_place hclosed
    refine ⟨rfl, place, entries, FileTree.locate_put hplace, rfl, fun other hother => ?_⟩
    rw [FileTree.get?_put_of_ne hother]
    exact adds.place other

/-- How a run into an archive ends: it is refused before anything is asked of the storage, or it
fails and leaves directories at most, or its archive is in place with all that has been made. -/
inductive Ended (files : σ → FileTree) (config : Config) (now : Moment) (schema : Schema)
    (start : σ) : Except Error GeneratedArchive → σ → Prop where
  | refused {error : Error} (hcheck : check config schema.toModel = .error error) :
    Ended files config now schema start (.error error) start
  | failed {warnings : List String} {after : σ} (error : Error)
      (hcheck : check config schema.toModel = .ok warnings)
      (adds : AddsDirectories (files start) (files after)) :
    Ended files config now schema start (.error error) after
  | written {warnings : List String} {writer : ArchiveWriter} {after : σ}
      (hcheck : check config schema.toModel = .ok warnings)
      (hend : (produce config now schema).outcome = .ok ())
      (situation : ArchiveWriter.Situation (files start) config.output false
        (ArchiveMember.ofEntries ((produce config now schema).artifacts.map Artifact.toEntry))
        writer (files after))
      (hclosed : writer.isClosed = true) :
    Ended files config now schema start
      (.ok ⟨config.output, (produce config now schema).artifacts.map (·.path), warnings⟩) after

/-- Every run into an archive ends in one of these ways. -/
theorem exists_ended (hfallible : Storage.Fallible files) (config : Config) (now : Moment)
    (schema : Schema) (start : σ) : ∃ result after,
      (generateArchive (m := StateM σ) config now schema).run.run start = (result, after) ∧
        Ended files config now schema start result after := by
  cases hcheck : check config schema.toModel with
  | error refusal =>
    refine ⟨.error refusal, start, ?_, .refused hcheck⟩
    rw [generateArchive, hcheck]
    rfl
  | ok warnings =>
    have hnew : ArchiveWriter.Situation (files start) config.output false [] (.new config.output)
        (files start) := .idle (.refl _)
    obtain ⟨writer, ended, left, hinto, hopen, more, hsituation, hall⟩ :=
      hnew.exists_into hfallible rfl (produce config now schema)
    unfold generateArchive
    rw [run_bind_of_ok (run_check hcheck start), run_bind_of_ok (run_lift hinto)]
    dsimp only
    cases ended with
    | error stop =>
      rcases hdrop : (writer.drop (m := StateM σ)).run left with ⟨⟨⟩, dropped⟩
      have hadds := hsituation.adds_of_drop hfallible hopen
      rw [hdrop] at hadds
      rw [run_bind_of_ok (run_lift hdrop)]
      exact ⟨.error stop, dropped, rfl, .failed stop hcheck hadds⟩
    | ok _ =>
      obtain ⟨hend, hnames, rfl⟩ := hall rfl
      -- The writer is closed and given up, and only then is the answer looked at.
      obtain ⟨answer, next, final, hclose, hclosing⟩ := hsituation.exists_closing hfallible
      rw [run_bind_of_ok (run_lift hclose)]
      dsimp only
      rcases hdrop : (next.drop (m := StateM σ)).run final with ⟨⟨⟩, dropped⟩
      rw [run_bind_of_ok (run_lift hdrop)]
      cases answer with
      | error error =>
        have hadds := hclosing.adds_of_drop hfallible rfl
        rw [hdrop] at hadds
        exact ⟨.error error, dropped, rfl, .failed error hcheck hadds⟩
      | ok path =>
        obtain ⟨rfl, hclosed⟩ := hclosing.closed path rfl
        rw [ArchiveWriter.run_drop_of_closed hclosed] at hdrop
        obtain rfl : final = dropped := congrArg Prod.snd hdrop
        refine ⟨_, final, rfl, ?_⟩
        rw [hclosing.names_eq, hnames]
        exact .written hcheck hend hclosing.situation hclosed

/-- The archive that a run returned stands at the output of the settings, with the files of the run
in memory at the same time, in their order. -/
theorem generateArchive_eq_ok (hfallible : Storage.Fallible files) {now : Moment} {start after : σ}
    {archive : GeneratedArchive}
    (h : (generateArchive (m := StateM σ) config now schema).run.run start =
      (.ok archive, after)) :
    ∃ output, generate config now schema = .ok output ∧
      archive = ⟨config.output, output.files.map (·.path), output.warnings⟩ ∧
      (files after).readArchive config.output =
        .ok (output.files.map fun file => ArchiveMember.ofEntry file.path file.content) := by
  obtain ⟨result, left, hrun, hended⟩ := exists_ended hfallible config now schema start
  obtain ⟨hresult, rfl⟩ := Prod.mk.inj (h.symm.trans hrun)
  cases hended with
  | refused | failed => cases hresult
  | written hcheck hend situation hclosed =>
    have houtput : generate config now schema =
        .ok ⟨(produce config now schema).artifacts, _⟩ :=
      generate_eq_ok_iff.2 ⟨hcheck, congrArg (Production.mk _) hend⟩
    refine ⟨_, houtput, Except.ok.inj hresult, ?_⟩
    rw [situation.readArchive_eq hclosed, ArchiveMember.ofEntries_toEntry]

/-- Whatever a run into an archive comes to, its effects are those of a failure that adds
directories or of one archive at the output. A run that is refused has none. -/
theorem generateArchive_effects (hfallible : Storage.Fallible files) (config : Config)
    (now : Moment) (schema : Schema) (start : σ) : ∃ result after,
      (generateArchive (m := StateM σ) config now schema).run.run start = (result, after) ∧
        (∀ error, check config schema.toModel = .error error →
          result = .error error ∧ after = start) ∧
        Effects config.output (files start) result (files after) := by
  obtain ⟨result, after, hrun, hended⟩ := exists_ended hfallible config now schema start
  refine ⟨result, after, hrun, ?_⟩
  cases hended with
  | refused hcheck =>
    refine ⟨fun error herror => ?_, .of_adds (.refl _)⟩
    obtain rfl := Except.error.inj (hcheck.symm.trans herror)
    exact ⟨rfl, rfl⟩
  | failed error hcheck adds =>
    exact ⟨fun _ herror => absurd (hcheck.symm.trans herror) ok_ne_error, .of_adds adds⟩
  | @written warnings _ _ hcheck _ situation hclosed =>
    have heffects := Effects.of_placed situation hclosed warnings
    rw [Artifact.map_fst_toEntry] at heffects
    exact ⟨fun _ herror => absurd (hcheck.symm.trans herror) ok_ne_error, heffects⟩

/-- The run of the model with two tables reaches its end. -/
theorem outcome_sharedGroup : (produce fixedTime firstMoment sharedSchema).outcome = .ok () := by
  obtain ⟨output, houtput⟩ := exists_generate_sharedGroup
  exact congrArg Production.outcome (generate_eq_ok_iff.1 houtput).2

/-- The directory is made and the temporary file opened, and then the first entry is cut off. An
older file is where the archive belongs. -/
def spoiltEntry : FaultyTree where
  files := { entries := [(["migrations.zip"], .text "stale")] }
  plan := [none, none, some { reason := "Input/output error", written? := some 3 }]

/-- The run of the model with two tables fails at its first entry, and the older file is still
there. -/
theorem generateArchive_effects_spoiltEntry : Storage.Fallible FaultyTree.files ∧ ∃ after,
    (generateArchive (m := StateM FaultyTree) fixedTime firstMoment sharedSchema).run.run
        spoiltEntry =
      (.error (.archiveStorage "./migrations.zip" "Input/output error"), after) ∧
      AddsDirectories spoiltEntry.files after.files ∧
      after.files.get? ["migrations.zip"] = some (.text "stale") := by
  have hfallible := FaultyTree.fallible_faultyTree
  obtain ⟨result, after, hrun, -, heffects⟩ :=
    generateArchive_effects hfallible fixedTime firstMoment sharedSchema spoiltEntry
  have hcheck : check fixedTime sharedSchema.toModel = .ok [] := check_sharedGroup
  -- The first artifact opens the archive, and its entry is the first that fails.
  have hopen : ((ArchiveWriter.new fixedTime.output).openArchive (m := StateM FaultyTree)).run.run
      spoiltEntry = (.ok ⟨fixedTime.output, .open "./.tmp000000", []⟩,
        ⟨spoiltEntry.files.put [".tmp000000"] (.unfinished []),
          [some { reason := "Input/output error", written? := some 3 }]⟩) :=
    Prod.ext (by decide) (by decide)
  have hfails : result = .error (.archiveStorage "./migrations.zip" "Input/output error") := by
    obtain ⟨file, rest, hfiles⟩ := List.exists_cons_of_ne_nil
      ((accepted_of_check hcheck).artifacts_ne_nil outcome_sharedGroup)
    have haccept : ((ArchiveWriter.new fixedTime.output).accept (m := StateM FaultyTree) file).run
        spoiltEntry = _ :=
      (ArchiveWriter.run_write_of_new rfl (List.not_mem_nil) hopen file.content).trans
        (ArchiveWriter.run_add_of_error rfl)
    have hoffer := run_offer_of_error haccept rest
    rw [← hfiles] at hoffer
    unfold generateArchive at hrun
    rw [run_bind_of_ok (run_check hcheck spoiltEntry),
      run_bind_of_ok (run_lift (run_into_of_error hoffer))] at hrun
    exact (congrArg Prod.fst hrun).symm
  subst hfails
  have hadds := heffects.failed _ rfl
  refine ⟨hfallible, after, hrun, hadds, ?_⟩
  rcases hadds.place ["migrations.zip"] with hsame | ⟨hnone, -⟩
  · rw [hsame]
    rfl
  · cases hnone

end Generator

end SchemaMigration
