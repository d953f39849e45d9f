import SchemaMigration.Proofs.Generation.FileNames
import SchemaMigration.Proofs.Generation.Output
import SchemaMigration.Proofs.Storage.DirectoryWrites

/-!
# `SchemaMigration.Proofs.Generation.DirectoryOutput`: what writing to a directory changes

The migrations of a run go to the place that the path of the directory leads to, each under its
own name (`Collection.Written`). The directory is looked at before, and a name in it that ends
like that of a migration is refused. So what stands in a directory that is there is not replaced.

A directory that the path does not lead to is not looked at. It may be there all the same. The
empty path leads to nothing, and files are written to the working directory. A path that goes
back up by `..` leads to nothing while a name on the way is missing. Making the directory makes
that name as well, and then the path leads to a directory that has been there before. In both
cases a file of the same name is replaced without being asked for. In all others everything is
preserved (`written_migrations`).
-/

set_option autoImplicit false

namespace SchemaMigration

open SchemaMigration.Calendar
open SchemaMigration.Outcome

namespace FileTree

variable {tree made before after : FileTree} {place : List String} {name directory : String}

/-- What stood in a tree stands in another, unchanged. -/
def Preserved (before after : FileTree) : Prop :=
  ∀ place, before.get? place ≠ none → after.get? place = before.get? place

/-- Something stands at the places of a tree, and nowhere else below the root. -/
theorem mem_places_iff (hplace : place ≠ []) : place ∈ tree.places ↔ tree.get? place ≠ none := by
  have hdown : place ∈ (List.range tree.workingDirectory.length).map
      (fun n => tree.workingDirectory.take (n + 1)) ↔ place <+: tree.workingDirectory := by
    rw [List.mem_map]
    constructor
    · rintro ⟨n, -, rfl⟩
      exact List.take_prefix _ _
    · intro hprefix
      have hlength := hprefix.length_le
      have hsome := List.length_pos_iff.2 hplace
      refine ⟨place.length - 1, List.mem_range.2 (by omega), ?_⟩
      rw [Nat.sub_add_cancel hsome]
      exact (List.prefix_iff_eq_take.1 hprefix).symm
  rw [places, List.mem_append, hdown, List.mem_map]
  constructor
  · rintro (hlead | ⟨entry, hentry, rfl⟩)
    · simp [get?_of_isPrefix hlead]
    · rw [get?]
      split
      · exact Option.some_ne_none _
      · rw [Ne, List.lookup_eq_none_iff]
        exact fun hnone => absurd (hnone _ hentry) (by simp)
  · intro h
    rcases prefix_or_mem_of_get? h with hlead | ⟨entry, hentry⟩
    · exact .inl hlead
    · exact .inr ⟨_, hentry, rfl⟩

/-- The names in a directory are those that something stands under. -/
theorem mem_childNames_iff : name ∈ tree.childNames place ↔ tree.get? (place ++ [name]) ≠ none := by
  rw [← mem_places_iff (by simp), childNames, List.mem_filterMap]
  constructor
  · rintro ⟨found, hfound, hname⟩
    split at hname
    · next hplace =>
      obtain ⟨front, rfl⟩ := List.getLast?_eq_some_iff.1 hname
      rw [List.dropLast_concat] at hplace
      rwa [← hplace]
    · cases hname
  · intro h
    exact ⟨place ++ [name], h, by simp⟩

/-- The names that are listed are those in the directory of the path. -/
theorem exists_namesIn (hlocate : tree.locate directory = .ok (place, some .directory)) :
    ∃ names, tree.namesIn directory = .ok names ∧
      ∀ name, name ∈ names ↔ tree.get? (place ++ [name]) ≠ none := by
  refine ⟨tree.childNames place, ?_, fun name => mem_childNames_iff⟩
  rw [namesIn, hlocate, ok_bind]
  rfl

/-- A path that leads to something leads to a directory when its directory can be made. -/
theorem locate_of_pathExists (hmade : tree.makeDirectories directory = (.ok (), made))
    (hplace : made.walk directory = .ok place) (hexists : tree.pathExists directory = true) :
    tree.locate directory = .ok (place, some .directory) := by
  unfold pathExists at hexists
  split at hexists
  case h_2 => cases hexists
  next found entry hlocate =>
  obtain ⟨hadds, hmadeThere⟩ := makeDirectories_eq_ok hmade
  obtain ⟨_, _, happroach, -, hentry⟩ := exists_approach_of_locate hlocate
  rcases hmadeThere with rfl | ⟨reached, hreached⟩
  · -- The empty path leads to nothing.
    obtain ⟨-, -, hsome, -⟩ := approach_eq_ok_iff.1 happroach
    exact absurd rfl hsome
  · obtain rfl := hadds.addsDirectories.keepsDirectories.place_eq hlocate hreached
    obtain ⟨-, hwalk⟩ := locate_directory_iff.1 hreached
    obtain rfl := Except.ok.inj (hwalk.symm.trans hplace)
    obtain ⟨-, -, -, -, hthere⟩ := exists_approach_of_locate hreached
    -- What is there has stayed, and it is a directory now.
    rcases hadds.place reached with hsame | ⟨hnone, -⟩
    · rw [hlocate, ← hentry, ← hsame, hthere]
    · rw [hnone] at hentry
      cases hentry

/-- A path without `..` leads to its directory when the directory is there. -/
theorem pathExists_of_rooted (hkeeps : before.KeepsDirectories after) (hrooted : before.Rooted)
    (hdown : ".." ∉ Path.parts directory)
    (hlocate : after.locate directory = .ok (place, some .directory))
    (hplace : before.get? place = some .directory) : before.pathExists directory = true := by
  obtain ⟨hallowed, hwalk⟩ := locate_directory_iff.1 hlocate
  rw [walk, hkeeps.origin_eq] at hwalk
  have hbefore : before.locate directory = .ok (place, some .directory) :=
    locate_directory_iff.2 ⟨hallowed, enter_of_rooted hrooted hdown hwalk hplace⟩
  rw [pathExists, hbefore]

end FileTree

namespace Collection

variable {c : Collection} {migrations : List Artifact} {names paths : List String}
  {directory name : String} {place : List String} {before after : FileTree} {overwrite : Bool}
  {file : Artifact}

/-- No name clashes with a migration when no clash is found. -/
theorem findClash_eq_none_iff : findClash migrations names = none ↔
    ∀ name ∈ names, ∀ migration ∈ migrations, clashes name migration = false := by
  simp [findClash, List.findSome?_eq_none_iff]

/-- The migrations of a collection have been written to a directory: they stand in the place that
its path leads to, no directory has been lost, and there is no new loose end. Nothing else has
changed but that directories stand where the path and those above it lead, and nothing stood
there. Without a path the place is the working directory. -/
structure Written (c : Collection) (directory : String) (place : List String)
    (before after : FileTree) : Prop where
  leads : directory = "" ∧ place = before.workingDirectory ∨
    after.locate directory = .ok (place, some .directory)
  texts : ∀ file ∈ c.migrations, after.get? (place ++ [file.path]) = some (.text file.content)
  keeps : before.KeepsDirectories after
  rooted : before.Rooted → after.Rooted
  others : ∀ other, (∀ file ∈ c.migrations, other ≠ place ++ [file.path]) →
    after.get? other = before.get? other ∨
      before.get? other = none ∧ after.get? other = some .directory ∧
        ∃ path ∈ directory :: Path.above directory,
          after.locate path = .ok (other, some .directory)

section Run

variable {σ : Type} [Storage (StateM σ)] {files : σ → FileTree} {s made left : σ}

/-- Unless migrations may replace others, the directory is checked before all else. -/
theorem writeTo_false {m : Type → Type} [Monad m] [Storage m] (c : Collection)
    (directory : String) : c.writeTo (m := m) directory false =
      checkDirectory c.migrations directory >>= fun _ => c.writeTo directory true := rfl

variable (hfallible : Storage.Fallible files)

include hfallible

/-- Writing that succeeds has made the directory and has written the migrations to it. Unless they
may replace others, the directory has been checked before that. -/
theorem run_writeTo (h : (c.writeTo (m := StateM σ) directory overwrite).run.run s =
      (.ok paths, left)) :
    ∃ checked made, files checked = files s ∧
      (overwrite = false → (checkDirectory (m := StateM σ) c.migrations directory).run.run s =
        (.ok (), checked)) ∧
      (files s).makeDirectories directory = (.ok (), files made) ∧
      (c.migrations.mapM (writeFile (m := StateM σ) directory)).run.run made =
        (.ok paths, left) := by
  have hwrites {checked : σ} (h : (c.writeTo (m := StateM σ) directory true).run.run checked =
      (.ok paths, left)) : ∃ made,
        (files checked).makeDirectories directory = (.ok (), files made) ∧
        (c.migrations.mapM (writeFile (m := StateM σ) directory)).run.run made =
          (.ok paths, left) := by
    obtain ⟨_, made, hmake, hwrite⟩ := run_bind_eq_ok_iff.1 h
    exact ⟨made, hfallible.makeDirectories_ok _ _ _ (run_attempt_eq_ok_iff.1 hmake), hwrite⟩
  cases overwrite with
  | true =>
    obtain ⟨made, hmake, hwrite⟩ := hwrites h
    exact ⟨s, made, rfl, nofun, hmake, hwrite⟩
  | false =>
    rw [writeTo_false] at h
    obtain ⟨_, checked, hcheck, hrest⟩ := run_bind_eq_ok_iff.1 h
    obtain ⟨hsame, -⟩ := checkDirectory_cases hfallible hcheck
    obtain ⟨made, hmake, hwrite⟩ := hwrites hrest
    exact ⟨checked, made, hsame, fun _ => hcheck, hsame ▸ hmake, hwrite⟩

/-- Writing fails in one of three ways. The directory is refused, or it cannot be made, or one of
the migrations cannot be written when those before it have been. -/
theorem run_writeTo_error {e : Error}
    (h : (c.writeTo (m := StateM σ) directory overwrite).run.run s = (.error e, left)) :
    (overwrite = false ∧ (checkDirectory (m := StateM σ) c.migrations directory).run.run s =
        (.error e, left)) ∨
      ((files s).AddsDirectories (files left) ∧ ∃ reason, e = .fileWrite directory reason) ∨
      ∃ made middle front file back, (files s).makeDirectories directory = (.ok (), files made) ∧
        c.migrations = front ++ file :: back ∧
        (∃ paths, (front.mapM (writeFile (m := StateM σ) directory)).run.run made =
          (.ok paths, middle)) ∧
        (files middle).SpoilsFile (Path.join directory file.path) (files left) ∧
        ∃ reason, e = .fileWrite (Path.join directory file.path) reason := by
  -- Looking at the directory changes nothing, so what follows it is a run that overwrites.
  have hunchecked : (overwrite = false ∧ (checkDirectory (m := StateM σ) c.migrations
      directory).run.run s = (.error e, left)) ∨ ∃ checked, files checked = files s ∧
        (c.writeTo (m := StateM σ) directory true).run.run checked = (.error e, left) := by
    cases overwrite with
    | true => exact .inr ⟨s, rfl, h⟩
    | false =>
      rw [writeTo_false] at h
      rcases run_bind_eq_error_iff.1 h with hcheck | ⟨_, checked, hcheck, hrest⟩
      · exact .inl ⟨rfl, hcheck⟩
      · exact .inr ⟨checked, (checkDirectory_cases hfallible hcheck).1, hrest⟩
  refine hunchecked.imp_right fun ⟨checked, hsame, hrest⟩ => ?_
  rw [← hsame]
  rcases run_bind_eq_error_iff.1 hrest with hattempt | ⟨_, made, hattempt, hwrite⟩
  · obtain ⟨reason, hmake, rfl⟩ := run_attempt_eq_error_iff.1 hattempt
    have hadds := hfallible.makeDirectories directory checked
    rw [hmake] at hadds
    exact .inl ⟨hadds, reason, rfl⟩
  · have hmake := hfallible.makeDirectories_ok _ _ _ (run_attempt_eq_ok_iff.1 hattempt)
    obtain ⟨front, file, back, paths, middle, hsplit, hfront, hfile⟩ := run_mapM_eq_error hwrite
    obtain ⟨hspoils, hreason⟩ := run_writeFile_error hfallible hfile
    exact .inr ⟨made, middle, front, file, back, hmake, hsplit, ⟨paths, hfront⟩, hspoils, hreason⟩

/-- Migrations under names of their own that are written to a directory, once it is made, are
written to its place. -/
theorem written_of_run (hnamed : NamedApart c.migrations)
    (hmake : before.makeDirectories directory = (.ok (), files made))
    (hwrite : (c.migrations.mapM (writeFile (m := StateM σ) directory)).run.run made =
      (.ok paths, left)) :
    paths = c.migrations.map (fun file => Path.join directory file.path) ∧
      ∃ place, (files made).walk directory = .ok place ∧
        c.Written directory place before (files left) := by
  obtain ⟨place, hplace⟩ := FileTree.exists_walk_of_makeDirectories hmake
  obtain ⟨hadds, hthere⟩ := FileTree.makeDirectories_eq_ok hmake
  obtain ⟨hpaths, hkeeps, hrooted, htexts, hframe⟩ :=
    run_writeFiles hfallible hplace hnamed hwrite
  refine ⟨hpaths, place, hplace, ?_⟩
  exact {
    -- The path led to the place before, or it leads there now.
    leads := by
      rcases hthere with rfl | ⟨reached, hreached⟩
      · exact .inl ⟨rfl, (Except.ok.inj hplace).symm.trans hadds.workingDirectory_eq⟩
      · obtain ⟨-, hwalk⟩ := FileTree.locate_directory_iff.1 hreached
        obtain rfl := Except.ok.inj (hwalk.symm.trans hplace)
        exact .inr (hkeeps.locate hreached)
    texts := htexts
    keeps := hadds.addsDirectories.keepsDirectories.trans hkeeps
    rooted := fun h => by
      have hmade := h.makeDirectories directory
      rw [hmake] at hmade
      exact hrooted hmade
    others := fun other hother => by
      rw [hframe other hother]
      refine (hadds.place other).imp_right fun ⟨hnone, hdirectory, path, hpath, hlocate⟩ => ?_
      exact ⟨hnone, hdirectory, path, hpath, hkeeps.locate hlocate⟩ }

end Run

/-- Everything is preserved when nothing stood where the migrations go. -/
theorem Written.preserved (h : c.Written directory place before after)
    (hfree : ∀ file ∈ c.migrations, before.get? (place ++ [file.path]) = none) :
    before.Preserved after := by
  intro other hother
  have hapart : ∀ file ∈ c.migrations, other ≠ place ++ [file.path] := by
    rintro file hfile rfl
    exact hother (hfree file hfile)
  rcases h.others other hapart with hsame | ⟨hnone, -⟩
  · exact hsame
  · exact absurd hnone hother

/-- Nothing stands in a directory that is not there. -/
theorem Written.preserved_of_rooted (h : c.Written directory place before after)
    (hrooted : before.Rooted) (hplace : before.get? place ≠ some .directory) :
    before.Preserved after := by
  refine h.preserved fun file _ => ?_
  by_contra hsome
  exact hplace (hrooted place file.path hsome)

end Collection

namespace Generator

variable {config : Config} {schema : Schema} {now : Moment} {output : Collection}
  {before after : FileTree} {directory : String} {paths : List String} {overwrite : Bool}

/-- The migrations of a run have distinct names, and none is that of the snapshot. -/
theorem paths_of_generate (h : generate config now schema = .ok output) :
    (output.migrations.map (·.path)).Nodup ∧
      snapshotName ∉ output.migrations.map (·.path) := by
  obtain ⟨haccepted, -, assembler, tableFiles, relationFiles, -, hproduced⟩ :=
    produced_of_generate h rfl
  have hmigrations : output.migrations = tableFiles ++ relationFiles :=
    hproduced.migrations_eq output.warnings
  rw [hmigrations]
  exact ⟨hproduced.sequenced.nodup_paths haccepted.one_le_step,
    hproduced.sequenced.snapshotName_not_mem⟩

/-- A migration of a run has a path that is one name, and clashes with a file of this name. -/
theorem name_of_migration (h : generate config now schema = .ok output) :
    ∀ file ∈ output.migrations, file.path ≠ "" ∧ '/' ∉ file.path.toList ∧
      Collection.clashes file.path file = true := by
  intro file hfile
  obtain ⟨warnings, hcheck, -⟩ := bind_eq_ok_iff.1 h
  obtain ⟨hconfig, -⟩ := check_eq_ok_iff.1 hcheck
  obtain ⟨hextension, -⟩ := validate_eq_ok_iff.1 hconfig
  obtain ⟨name, hname, hmade⟩ := exists_source_of_mem (emitted_of_generate h) file hfile
  exact ⟨hmade.path_ne_empty,
    hmade.slash_not_mem_path (isName_of_mem_emittedNames hcheck name hname) hextension,
    hmade.clashes_self⟩

/-- So they can stand in one directory. -/
theorem namedApart_of_generate (h : generate config now schema = .ok output) :
    Collection.NamedApart output.migrations where
  ne_empty file hfile := (name_of_migration h file hfile).1
  slash_not_mem file hfile := (name_of_migration h file hfile).2.1
  nodup := (paths_of_generate h).1

/-- Writing the migrations of a run that succeeds has written them to the place of the directory,
which has been made, and checked before that unless they may replace others. -/
theorem written_of_generate (h : generate config now schema = .ok output)
    (hwrite : (output.writeTo (m := StateM FileTree) directory overwrite).run.run before =
      (.ok paths, after)) :
    (overwrite = false → (Collection.checkDirectory (m := StateM FileTree) output.migrations
        directory).run.run before = (.ok (), before)) ∧
      paths = output.migrations.map (fun file => Path.join directory file.path) ∧
      ∃ made place, before.makeDirectories directory = (.ok (), made) ∧
        made.walk directory = .ok place ∧ output.Written directory place before after := by
  obtain ⟨checked, made, hsame, hcheck, hmake, hfiles⟩ :=
    Collection.run_writeTo FileTree.fallible_fileTree hwrite
  obtain rfl : checked = before := hsame
  obtain ⟨hpaths, place, hplace, hwritten⟩ :=
    Collection.written_of_run FileTree.fallible_fileTree (namedApart_of_generate h) hmake hfiles
  exact ⟨hcheck, hpaths, made, place, hmake, hplace, hwritten⟩

/-- Migrations that are written without replacing others stand in the directory with their
contents, and the result is their paths in order. All that was there is preserved when the path
led to something, and when it leads to a directory that was not there. One or the other holds of
every path that is not empty and has no `..` in it. -/
theorem written_migrations (h : generate config now schema = .ok output)
    (hwrite : (output.writeTo (m := StateM FileTree) directory false).run.run before =
      (.ok paths, after)) :
    paths = output.migrations.map (fun file => Path.join directory file.path) ∧
      snapshotName ∉ output.migrations.map (·.path) ∧
      ∃ place, output.Written directory place before after ∧
        (before.pathExists directory = true → before.Preserved after) ∧
        (before.Rooted → before.get? place ≠ some .directory → before.Preserved after) ∧
        (before.Rooted → directory ≠ "" → ".." ∉ Path.parts directory →
          before.Preserved after) := by
  obtain ⟨hcheck, hpaths, made, place, hmake, hplace, hwritten⟩ := written_of_generate h hwrite
  -- A name of a migration would have been found in a directory that is looked at.
  have hlisted : before.pathExists directory = true → before.Preserved after := by
    intro hexists
    refine hwritten.preserved fun file hfile => ?_
    obtain ⟨names, hlist, hclash⟩ := Collection.names_of_checkDirectory (hcheck rfl) hexists
    by_contra hsome
    obtain ⟨listed, hlisted, hmem⟩ :=
      FileTree.exists_namesIn (FileTree.locate_of_pathExists hmake hplace hexists)
    obtain rfl := Except.ok.inj (hlist.symm.trans hlisted)
    have hapart := Collection.findClash_eq_none_iff.1 hclash _
      (List.mem_cons_of_mem _ ((hmem _).2 hsome))
    exact absurd (name_of_migration h file hfile).2.2 (by simp [hapart file hfile])
  refine ⟨hpaths, (paths_of_generate h).2, place, hwritten, hlisted, hwritten.preserved_of_rooted,
    fun hrooted hsome hdown => ?_⟩
  rcases hwritten.leads with ⟨hempty, -⟩ | hlocate
  · exact absurd hempty hsome
  · by_cases hthere : before.get? place = some .directory
    · exact hlisted
        (FileTree.pathExists_of_rooted hwritten.keeps hrooted hdown hlocate hthere)
    · exact hwritten.preserved_of_rooted hrooted hthere

/-! ### A file beside and a file in the way -/

/-- A table with one column. -/
def singleTable : Schema where
  tables := [{ id := .number 1, name := "users" }]
  columns := .ofList [("1", [.increments "id"])]

/-- The migration of the table. -/
def singleMigration : Artifact where
  path := Artifact.fileName firstMoment.key "users" fixedTime.extension
  content := Assembler.tableText "users"
    (Assembler.indent (statements { id := .number 1, name := "users" } [.increments "id"]))
  kind := .table

/-- What a run makes of the table. -/
def singleOutput : Collection where
  files := [singleMigration, .snapshot singleTable.snapshot]

theorem generate_singleTable : generate fixedTime firstMoment singleTable = .ok singleOutput := by
  obtain ⟨assembler, hassembler, hextension, hstubs⟩ :=
    Assembler.ofExtension_eq_ok fixedTime.extension
  have hcheck : check fixedTime singleTable.toModel = .ok [] :=
    check_fixedTime_of_folded (by decide) (by decide)
  have hstart : Sequencer.start (fixedTime.baseTime.getD firstMoment)
      fixedTime.stepSeconds.toInt = .ok ⟨firstMoment, 60, 0⟩ := by decide
  have hnext : Sequencer.next ⟨firstMoment, 60, 0⟩ =
      .ok (firstMoment.key, ⟨firstMoment, 60, 1⟩) := by decide +kernel
  have htables : singleTable.toModel.tables = [{ id := .number 1, name := "users" }] := rfl
  have hcolumns : singleTable.toModel.columnsFor { id := .number 1, name := "users" } =
      .ok [.increments "id"] := rfl
  have hprocess :
      processTables singleTable.toModel assembler { sequencer := ⟨firstMoment, 60, 0⟩ } =
        ⟨[singleMigration], .ok { stage := .processing, sequencer := ⟨firstMoment, 60, 1⟩ }⟩ := by
    rw [processTables_eq rfl, htables, processEach, processTable_eq_ok hstubs hcolumns hnext,
      hextension]
    rfl
  -- There are no relations behind the table.
  have hproduce : produce fixedTime firstMoment singleTable =
      ⟨[singleMigration, .snapshot singleTable.snapshot], .ok ()⟩ := by
    rw [produce, hstart, Production.lift_ok_bind, hassembler, Production.lift_ok_bind, hprocess]
    rfl
  exact generate_eq_ok_iff.2 ⟨hcheck, hproduce⟩

/-- A directory with a file in it. -/
def oneFile (directory name : String) : FileTree where
  entries := [([directory], .directory), ([directory, name], .text "<?php")]

/-- The migration is written beside another file, which is preserved. -/
theorem written_migrations_beside :
    ∃ after, generate fixedTime firstMoment singleTable = .ok singleOutput ∧
      (singleOutput.writeTo (m := StateM FileTree) "/out" false).run.run
        (oneFile "out" "notes.txt") =
          (.ok ["/out/2023_06_24_000000_create_users_table.php"], after) ∧
      (oneFile "out" "notes.txt").Rooted ∧ (oneFile "out" "notes.txt").Preserved after := by
  obtain ⟨after, hwrite⟩ := exists_run_of_toOption (x := singleOutput.writeTo "/out" false)
    (s := oneFile "out" "notes.txt")
    (a := ["/out/2023_06_24_000000_create_users_table.php"]) (by decide +kernel)
  have hrooted : (oneFile "out" "notes.txt").Rooted :=
    FileTree.rooted_of_entries (by decide)
  obtain ⟨-, -, place, -, -, -, hdown⟩ := written_migrations generate_singleTable hwrite
  exact ⟨after, generate_singleTable, hwrite, hrooted,
    hdown hrooted (by decide) (by decide +kernel)⟩

/-- The content of the migration is longer than five characters. -/
theorem content_singleMigration_ne : singleMigration.content ≠ "<?php" := by
  intro hcontent
  obtain ⟨body, hbody⟩ := Assembler.exists_body_tableText "users"
    (Assembler.indent (statements { id := .number 1, name := "users" } [.increments "id"]))
  have hlength := congrArg (fun text => text.toList.length) (hbody.symm.trans hcontent)
  have hclass : "class ".toList.length = 6 := rfl
  have hshort : "<?php".toList.length = 5 := rfl
  simp only [Stub.classOpening, String.toList_append, List.length_append] at hlength
  omega

/-- The path goes through a name that is missing and back up, so the directory is not looked at.
The migration takes the place of the file that has its name. -/
theorem not_preserved_in_the_way :
    ∃ before after place, generate fixedTime firstMoment singleTable = .ok singleOutput ∧
      (singleOutput.writeTo (m := StateM FileTree) "new/../old" false).run.run before =
        (.ok ["new/../old/2023_06_24_000000_create_users_table.php"], after) ∧
      before.Rooted ∧ before.get? place = some (.text "<?php") ∧
      after.get? place = some (.text singleMigration.content) ∧
      ¬ before.Preserved after := by
  obtain ⟨after, hrun⟩ := exists_run_of_toOption (x := singleOutput.writeTo "new/../old" false)
    (s := oneFile "old" singleMigration.path)
    (a := ["new/../old/2023_06_24_000000_create_users_table.php"]) (by decide +kernel)
  obtain ⟨-, -, made, place, hmake, hplace, hwritten⟩ :=
    written_of_generate generate_singleTable hrun
  -- With the missing name the path leads to the directory that is there.
  have hthrough : ((oneFile "old" singleMigration.path).put ["new"] .directory).walk
      "new/../old" = .ok ["old"] := by decide
  have hsame : made.workingDirectory =
      ((oneFile "old" singleMigration.path).put ["new"] .directory).workingDirectory :=
    (FileTree.makeDirectories_eq_ok hmake).1.workingDirectory_eq
  obtain rfl := FileTree.walk_inj hsame.symm hplace hthrough
  have hbefore : (oneFile "old" singleMigration.path).get? ["old", singleMigration.path] =
      some (.text "<?php") := by decide
  have hafter : after.get? ["old", singleMigration.path] = some (.text singleMigration.content) :=
    hwritten.texts singleMigration (List.mem_singleton_self _)
  refine ⟨_, after, _, generate_singleTable, hrun, FileTree.rooted_of_entries (by decide),
    hbefore, hafter, fun hpreserved => ?_⟩
  have hsame := hpreserved ["old", singleMigration.path] (by simp [hbefore])
  rw [hafter, hbefore, Option.some.injEq, FileTree.Entry.text.injEq] at hsame
  exact content_singleMigration_ne hsame

end Generator

end SchemaMigration
