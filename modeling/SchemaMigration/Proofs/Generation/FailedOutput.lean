import SchemaMigration.Proofs.Generation.DirectoryOutput

/-!
# `SchemaMigration.Proofs.Generation.FailedOutput`: what a failed write leaves behind

A directory is checked and made before a file is written to it. So nothing of a run is left behind
when the check refuses the directory or it cannot be made. But then the files are written one by
one, and each of them can fail, in any storage. Those before it stay where they have been written,
and a part of the one that fails may be there as well (`failed_write`). Nothing is there of a failed
write exactly when all files before it stood in the directory before, with the same contents, and it
has left its own alone.
-/

set_option autoImplicit false

namespace SchemaMigration

open SchemaMigration.Calendar
open SchemaMigration.Outcome

namespace FileTree

variable {before after : FileTree} {place other : List String} {directory name : String}

/-- What stands at a place has been left alone, or something of a file is there now. No directory
has given way to it. -/
def SpoilsPlace (before : FileTree) (place : List String) (after : FileTree) : Prop :=
  after = before ∨ before.get? place ≠ some .directory ∧
    ∃ entry, entry ≠ .directory ∧ after = before.put place entry

/-- A file that is spoilt in a directory is the one with its name. -/
theorem SpoilsFile.spoilsPlace (h : before.SpoilsFile (Path.join directory name) after)
    (hdirectory : before.walk directory = .ok place) (hsome : name ≠ "")
    (hslash : '/' ∉ name.toList) : before.SpoilsPlace (place ++ [name]) after := by
  refine h.imp_right ?_
  rintro ⟨file, entry, hwritable, hentry, hafter⟩
  obtain ⟨rfl, hfile⟩ := place_of_writable_join hdirectory hsome hslash hwritable
  exact ⟨hfile, entry, hentry, hafter⟩

/-- Nothing else is spoilt. -/
theorem SpoilsPlace.get?_of_ne (h : before.SpoilsPlace place after) (hother : other ≠ place) :
    after.get? other = before.get? other := by
  rcases h with rfl | ⟨-, entry, -, rfl⟩
  · rfl
  · exact get?_put_of_ne hother

/-- When the place has been left alone, everything has. -/
theorem SpoilsPlace.get?_eq (h : before.SpoilsPlace place after)
    (halone : after.get? place = before.get? place) (other : List String) :
    after.get? other = before.get? other := by
  by_cases hother : other = place
  · rw [hother, halone]
  · exact h.get?_of_ne hother

/-- Otherwise there is something now, and no directory. -/
theorem SpoilsPlace.cases (h : before.SpoilsPlace place after) :
    after.get? place = before.get? place ∨
      ∃ entry, entry ≠ .directory ∧ after.get? place = some entry := by
  rcases h with rfl | ⟨hplain, entry, hentry, rfl⟩
  · exact .inl rfl
  · exact .inr ⟨entry, hentry, get?_put_self hplain⟩

theorem SpoilsPlace.workingDirectory_eq (h : before.SpoilsPlace place after) :
    after.workingDirectory = before.workingDirectory := by
  rcases h with rfl | ⟨-, entry, -, rfl⟩ <;> rfl

end FileTree

namespace Collection

variable {c : Collection} {directory : String} {place : List String}
  {before stopped after : FileTree} {file : Artifact}

/-- The path of the directory leads to its place once the migrations are there. -/
theorem Written.walk (h : c.Written directory place before after) :
    after.walk directory = .ok place := by
  rcases h.leads with ⟨rfl, rfl⟩ | hlocate
  · rw [← h.keeps.workingDirectory_eq]
    rfl
  · exact (FileTree.locate_directory_iff.1 hlocate).2

/-- Written migrations have added nothing but directories exactly when they have been there
before. -/
theorem Written.addsDirectories_iff (h : c.Written directory place before after) :
    before.AddsDirectories after ↔
      ∀ file ∈ c.migrations, before.get? (place ++ [file.path]) = some (.text file.content) := by
  constructor
  · intro hadds file hfile
    rcases hadds.place (place ++ [file.path]) with hsame | ⟨-, hdirectory⟩
    · rw [← hsame, h.texts file hfile]
    · rw [h.texts file hfile] at hdirectory
      cases hdirectory
  · refine fun hthere => ⟨h.keeps.workingDirectory_eq, fun other => ?_⟩
    -- A place is that of a migration, which had its text already, or it has nothing new but a
    -- directory.
    by_cases hwritten : ∃ file ∈ c.migrations, other = place ++ [file.path]
    · obtain ⟨file, hfile, rfl⟩ := hwritten
      exact .inl (by rw [h.texts file hfile, hthere file hfile])
    · rcases h.others other fun file hfile hother => hwritten ⟨file, hfile, hother⟩ with
        hsame | ⟨hnone, hdirectory, -⟩
      · exact .inl hsame
      · exact .inr ⟨hnone, hdirectory⟩

/-- A file under another name than theirs that is spoilt behind them is new, or it has changed. So
it has been left alone when nothing but directories has been added. -/
theorem Written.alone_of_addsDirectories (h : c.Written directory place before stopped)
    (hspoils : stopped.SpoilsPlace (place ++ [file.path]) after)
    (hname : file.path ∉ c.migrations.map (·.path)) (hadds : before.AddsDirectories after) :
    after.get? (place ++ [file.path]) = stopped.get? (place ++ [file.path]) := by
  rcases hspoils.cases with halone | ⟨entry, hentry, hspoilt⟩
  · exact halone
  -- What is there now has been there before, and the migrations have not touched it.
  rcases hadds.place (place ++ [file.path]) with hsame | ⟨-, hdirectory⟩
  · rcases h.others _ (apart_of_not_mem place hname) with hleft | ⟨hnone, -⟩
    · rw [hleft, hsame]
    · rw [hsame, hnone] at hspoilt
      cases hspoilt
  · rw [hspoilt] at hdirectory
    exact absurd (Option.some.inj hdirectory) hentry

theorem Written.addsDirectories_spoilt_iff (h : c.Written directory place before stopped)
    (hspoils : stopped.SpoilsPlace (place ++ [file.path]) after)
    (hname : file.path ∉ c.migrations.map (·.path)) :
    before.AddsDirectories after ↔ before.AddsDirectories stopped ∧
      after.get? (place ++ [file.path]) = stopped.get? (place ++ [file.path]) := by
  constructor
  · intro hadds
    have halone := h.alone_of_addsDirectories hspoils hname hadds
    refine ⟨⟨h.keeps.workingDirectory_eq, fun other => ?_⟩, halone⟩
    rw [← hspoils.get?_eq halone other]
    exact hadds.place other
  · rintro ⟨hadds, halone⟩
    refine ⟨hspoils.workingDirectory_eq.trans hadds.workingDirectory_eq, fun other => ?_⟩
    rw [hspoils.get?_eq halone other]
    exact hadds.place other

end Collection

namespace Generator

variable {config : Config} {schema : Schema} {now : Moment} {output : Collection}
  {directory : String} {overwrite : Bool} {e : Error}

/-- The files that were written are migrations. -/
theorem migrations_eq_of_forall {files : List Artifact} (h : ∀ file ∈ files, file.isMigration) :
    ({ files } : Collection).migrations = files :=
  List.filter_eq_self.2 h

section Fallible

variable {σ : Type} [Storage (StateM σ)] {files : σ → FileTree}
  (hfallible : Storage.Fallible files) {s left : σ}

include hfallible

/-- The migrations in front of one where a write stops are written to the place of the directory.
The one where it stops has another name, and all that is spoilt is under this name. -/
theorem written_front {before after : FileTree} {made middle : σ} {front back : List Artifact}
    {file : Artifact} {paths : List String} (h : generate config now schema = .ok output)
    (hsplit : output.migrations = front ++ file :: back)
    (hmake : before.makeDirectories directory = (.ok (), files made))
    (hfront : (front.mapM (Collection.writeFile (m := StateM σ) directory)).run.run made =
      (.ok paths, middle))
    (hspoilt : (files middle).SpoilsFile (Path.join directory file.path) after) :
    ({ files := front } : Collection).migrations = front ∧ file.path ∉ front.map (·.path) ∧
      ∃ place, (files made).walk directory = .ok place ∧
        ({ files := front } : Collection).Written directory place before (files middle) ∧
        (files middle).SpoilsPlace (place ++ [file.path]) after := by
  have hnamed := namedApart_of_generate h
  rw [hsplit] at hnamed
  -- The files in front of the failure are a collection of their own, with names like the whole.
  have hmigrations : ({ files := front } : Collection).migrations = front := by
    refine migrations_eq_of_forall fun other hother => ?_
    have hmem : other ∈ output.migrations := hsplit ▸ List.mem_append_left _ hother
    exact List.of_mem_filter hmem
  rw [← hmigrations] at hfront
  obtain ⟨-, place, hplace, hwritten⟩ := Collection.written_of_run hfallible
    (hmigrations.symm ▸ hnamed.of_append) hmake hfront
  have hfile : file ∈ front ++ file :: back := List.mem_append_right _ List.mem_cons_self
  exact ⟨hmigrations, hnamed.not_mem_front, place, hplace, hwritten, hspoilt.spoilsPlace
    hwritten.walk (hnamed.ne_empty file hfile) (hnamed.slash_not_mem file hfile)⟩

/-- A write that fails has been refused, or has not made the directory, or has stopped at one of the
migrations. All migrations before that one have been written, and nothing else has changed since
but that a part of this one may be there. Nothing but directories has been added by the write
exactly when the migrations before have been there already and this one has been left alone. -/
theorem failed_write (h : generate config now schema = .ok output)
    (hwrite : (output.writeTo (m := StateM σ) directory overwrite).run.run s =
      (.error e, left)) :
    (overwrite = false ∧ files left = files s ∧
        ((∃ name, ∃ file ∈ output.migrations,
            e = .duplicateArtifact file.path (.onDisk name directory)) ∨
          ∃ reason, e = .fileRead directory reason)) ∨
      ((∃ reason, e = .fileWrite directory reason) ∧ (files s).AddsDirectories (files left)) ∨
      ∃ front file back place stopped, output.migrations = front ++ file :: back ∧
        (∃ reason, e = .fileWrite (Path.join directory file.path) reason) ∧
        ({ files := front } : Collection).Written directory place (files s) stopped ∧
        ({ files := front } : Collection).migrations = front ∧
        stopped.SpoilsPlace (place ++ [file.path]) (files left) ∧
        ((files s).AddsDirectories (files left) ↔
          (∀ other ∈ front,
            (files s).get? (place ++ [other.path]) = some (.text other.content)) ∧
          (files left).get? (place ++ [file.path]) = stopped.get? (place ++ [file.path])) := by
  rcases Collection.run_writeTo_error hfallible hwrite with ⟨hchecked, hcheck⟩ |
    ⟨hadds, hreason⟩ |
    ⟨made, middle, front, file, back, hmake, hsplit, ⟨paths, hfront⟩, hspoilt, hreason⟩
  · obtain ⟨hsame, hrefused⟩ := Collection.checkDirectory_cases hfallible hcheck
    exact .inl ⟨hchecked, hsame, hrefused e rfl⟩
  · exact .inr (.inl ⟨hreason, hadds⟩)
  · obtain ⟨hmigrations, hname, place, -, hwritten, hspoils⟩ :=
      written_front hfallible h hsplit hmake hfront hspoilt
    have hiff := hwritten.addsDirectories_spoilt_iff hspoils (by rwa [hmigrations])
    rw [hwritten.addsDirectories_iff, hmigrations] at hiff
    exact .inr (.inr ⟨front, file, back, place, files middle, hsplit, hreason, hwritten,
      hmigrations, hspoils, hiff⟩)

end Fallible

-- The disk is full in the second file. The first one stays, and two characters of the second.
example : ((Collection.writeTo (m := StateM FaultyTree)
      { files := [⟨"a.php", "<?php", .table⟩, ⟨"b.php", "<?php", .table⟩] } "m" true).run.run
        ⟨.empty, [none, none, some ⟨"No space left on device", some 2⟩]⟩).2.files.entries =
    [(["m"], .directory), (["m", "a.php"], .text "<?php"), (["m", "b.php"], .text "<?")] := by
  decide +kernel

/-! ### A directory in the place of the second migration -/

/-- Two tables with one column each. -/
def pairSchema : Schema where
  tables := [{ id := .number 1, name := "users" }, { id := .number 2, name := "posts" }]
  columns := .ofList [("1", [.increments "id"]), ("2", [.increments "id"])]

/-- The moment of the second migration, a minute later. -/
def secondMoment : Moment := ⟨739000, 60, 0, by decide, by decide⟩

/-- The migration of the second table. -/
def secondMigration : Artifact where
  path := Artifact.fileName secondMoment.key "posts" fixedTime.extension
  content := Assembler.tableText "posts"
    (Assembler.indent (statements { id := .number 2, name := "posts" } [.increments "id"]))
  kind := .table

/-- What a run makes of the two tables. The first one has the migration that it has alone. -/
def pairOutput : Collection where
  files := [singleMigration, secondMigration, .snapshot pairSchema.snapshot]

theorem generate_pairSchema : generate fixedTime firstMoment pairSchema = .ok pairOutput := by
  obtain ⟨assembler, hassembler, hextension, hstubs⟩ :=
    Assembler.ofExtension_eq_ok fixedTime.extension
  have hcheck : check fixedTime pairSchema.toModel = .ok [] :=
    check_fixedTime_of_folded (by decide) (by decide)
  -- The keys and the columns are computed. The texts of the files are not.
  have hstart : Sequencer.start (fixedTime.baseTime.getD firstMoment)
      fixedTime.stepSeconds.toInt = .ok ⟨firstMoment, 60, 0⟩ := by decide
  have hfirst : Sequencer.next ⟨firstMoment, 60, 0⟩ =
      .ok (firstMoment.key, ⟨firstMoment, 60, 1⟩) := by decide
  have hsecond : Sequencer.next ⟨firstMoment, 60, 1⟩ =
      .ok (secondMoment.key, ⟨firstMoment, 60, 2⟩) := by decide
  have htables : pairSchema.toModel.tables =
      [{ id := .number 1, name := "users" }, { id := .number 2, name := "posts" }] := rfl
  have husers : pairSchema.toModel.columnsFor { id := .number 1, name := "users" } =
      .ok [.increments "id"] := rfl
  have hposts : pairSchema.toModel.columnsFor { id := .number 2, name := "posts" } =
      .ok [.increments "id"] := rfl
  have hprocess :
      processTables pairSchema.toModel assembler { sequencer := ⟨firstMoment, 60, 0⟩ } =
        ⟨[singleMigration, secondMigration],
          .ok { stage := .processing, sequencer := ⟨firstMoment, 60, 2⟩ }⟩ := by
    rw [processTables_eq rfl, htables, processEach, processTable_eq_ok hstubs husers hfirst,
      Production.bind_of_ok rfl, processEach, processTable_eq_ok hstubs hposts hsecond, hextension]
    rfl
  have hproduce : produce fixedTime firstMoment pairSchema =
      ⟨[singleMigration, secondMigration, .snapshot pairSchema.snapshot], .ok ()⟩ := by
    rw [produce, hstart, Production.lift_ok_bind, hassembler, Production.lift_ok_bind, hprocess]
    rfl
  exact generate_eq_ok_iff.2 ⟨hcheck, hproduce⟩

/-- A directory in which a directory stands where the second migration goes. -/
def blockedTree : FileTree where
  entries := [(["out"], .directory), (["out", secondMigration.path], .directory)]

/-- There are only directories in it. -/
theorem get?_blockedTree_ne_text (place : List String) (text : String) :
    blockedTree.get? place ≠ some (.text text) := by
  unfold FileTree.get? blockedTree
  simp only [List.lookup_cons, List.lookup_nil]
  repeat' split
  all_goals exact nofun

/-- A write that fails at the second migration has the first one before it. -/
theorem singleMigration_mem_front {front back : List Artifact} {file : Artifact}
    {reason other : String} (hsplit : pairOutput.migrations = front ++ file :: back)
    (he : Error.fileWrite "out/2023_06_24_000100_create_posts_table.php" reason =
      .fileWrite (Path.join "out" file.path) other) : singleMigration ∈ front := by
  have hmigrations : pairOutput.migrations = [singleMigration, secondMigration] := rfl
  rw [hmigrations] at hsplit
  cases front with
  | nil =>
    obtain rfl := (List.cons.inj hsplit).1
    have hpath : "out/2023_06_24_000100_create_posts_table.php" ≠
        Path.join "out" singleMigration.path := by
      decide
    exact absurd (Error.fileWrite.inj he).1 hpath
  | cons first rest =>
    obtain rfl := (List.cons.inj hsplit).1
    exact List.mem_cons_self

/-- The second migration cannot be written, and the first one has been. -/
theorem exists_run_blockedTree : ∃ reason after,
    (pairOutput.writeTo (m := StateM FileTree) "out" true).run.run blockedTree =
      (.error (.fileWrite "out/2023_06_24_000100_create_posts_table.php" reason), after) ∧
    after.get? ["out", singleMigration.path] = some (.text singleMigration.content) := by
  have herror : ((pairOutput.writeTo (m := StateM FileTree) "out" true).run.run blockedTree).1 =
      .error (.fileWrite "out/2023_06_24_000100_create_posts_table.php"
        FileTree.isDirectory) := by
    decide +kernel
  have hplace : blockedTree.locate "out" = .ok (["out"], some .directory) := rfl
  have hthere : blockedTree.makeDirectories "out" = (.ok (), blockedTree) :=
    FileTree.makeDirectories_of_directory hplace
  rcases hrun : (pairOutput.writeTo (m := StateM FileTree) "out" true).run.run blockedTree with
    ⟨result, after⟩
  obtain rfl : result = _ := (congrArg Prod.fst hrun).symm.trans herror
  refine ⟨_, after, rfl, ?_⟩
  -- Which file has failed is computed. That the one before it is there is not.
  rcases Collection.run_writeTo_error FileTree.fallible_fileTree hrun with ⟨hchecked, -⟩ |
    ⟨-, _, he⟩ | ⟨made, middle, front, file, back, hmake, hsplit, ⟨paths, hfront⟩, hspoilt, _, he⟩
  · cases hchecked
  · exact absurd (Error.fileWrite.inj he).1 (by decide)
  · obtain ⟨hmigrations, hname, place, hwalk, hwritten, hspoils⟩ :=
      written_front FileTree.fallible_fileTree generate_pairSchema hsplit hmake hfront hspoilt
    obtain rfl := (Prod.mk.inj (hthere.symm.trans hmake)).2
    obtain rfl : ["out"] = place := Except.ok.inj hwalk
    have hfirst := singleMigration_mem_front hsplit he
    have hapart := Collection.apart_of_not_mem ["out"] hname _ hfirst
    refine (hspoils.get?_of_ne hapart.symm).trans (hwritten.texts _ ?_)
    rwa [hmigrations]

/-- The write stops at the second migration, and it has added more than directories. -/
theorem failed_write_blocked :
    ∃ reason after, generate fixedTime firstMoment pairSchema = .ok pairOutput ∧
      (pairOutput.writeTo (m := StateM FileTree) "out" true).run.run blockedTree =
        (.error (.fileWrite "out/2023_06_24_000100_create_posts_table.php" reason), after) ∧
      ¬ blockedTree.AddsDirectories after := by
  obtain ⟨reason, after, hwrite, -⟩ := exists_run_blockedTree
  refine ⟨reason, after, generate_pairSchema, hwrite, ?_⟩
  rcases failed_write FileTree.fallible_fileTree generate_pairSchema hwrite with
    ⟨hchecked, -⟩ | ⟨⟨_, he⟩, -⟩ | ⟨front, file, back, place, _, hsplit, ⟨_, he⟩, -, -, -, hiff⟩
  · cases hchecked
  · exact absurd (Error.fileWrite.inj he).1 (by decide)
  intro hadds
  obtain ⟨hthere, -⟩ := hiff.1 hadds
  exact get?_blockedTree_ne_text _ _ (hthere _ (singleMigration_mem_front hsplit he))

/-- The directory has the first migration in it after the write, and did not have it before. -/
theorem left_behind_blocked :
    ∃ reason after, generate fixedTime firstMoment pairSchema = .ok pairOutput ∧
      (pairOutput.writeTo (m := StateM FileTree) "out" true).run.run blockedTree =
        (.error (.fileWrite "out/2023_06_24_000100_create_posts_table.php" reason), after) ∧
      blockedTree.locate "out" = .ok (["out"], some .directory) ∧
      blockedTree.get? ["out", singleMigration.path] = none ∧
      after.get? ["out", singleMigration.path] = some (.text singleMigration.content) := by
  obtain ⟨reason, after, hwrite, hleft⟩ := exists_run_blockedTree
  exact ⟨reason, after, generate_pairSchema, hwrite, rfl, by decide, hleft⟩

end Generator

end SchemaMigration
