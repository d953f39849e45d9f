import Mathlib.Data.Set.Insert
import SchemaMigration.Proofs.Generation.DeclaredClasses
import SchemaMigration.Proofs.Generation.DirectoryOutput

/-!
# `SchemaMigration.Proofs.Generation.DirectorySuffixes`: what the names in a directory are names of

The key of a file name says when the migration is run. Its suffix, from the first separator on, says
what the migration creates. Two files of one suffix create the same thing.

A directory is refused when one of its names ends with the suffix of a migration. A name whose own
suffix this is ends with it. But so does a name with a longer suffix, as that of a migration for
`audit_create_users` ends like that of one for `users` (`clashes_iff`). The name of the directory is
compared as well, whatever stands in it (`refused_directory`).

Files that may be replaced are replaced by path, so by key and suffix. A file under another key
stays beside the new one of the same suffix (`replaced_migrations`).
-/

set_option autoImplicit false

namespace SchemaMigration

open SchemaMigration.Calendar
open SchemaMigration.Outcome

/-- What a file name says that is created: the part from the first separator on. -/
def Artifact.suffixOf? (name : String) : Option String :=
  (Text.cut? keySeparator.toList name.toList).map fun (_, after) =>
    keySeparator ++ String.ofList after

/-- A name ends with its suffix. -/
theorem Artifact.isSuffix_of_suffixOf? {name suffix : String} (h : suffixOf? name = some suffix) :
    suffix.toList <:+ name.toList := by
  obtain ⟨⟨before, after⟩, hcut, rfl⟩ := Option.map_eq_some_iff.1 h
  refine ⟨before, ?_⟩
  rw [Text.eq_append_of_cut? hcut, String.toList_append, String.toList_ofList, List.append_assoc]

/-- The suffix of a name ends with everything that starts with a separator and that the name ends
with. -/
theorem Artifact.exists_suffixOf?_eq {name back : String}
    (h : (keySeparator ++ back).toList <:+ name.toList) :
    ∃ front, suffixOf? name = some (front ++ (keySeparator ++ back)) := by
  obtain ⟨lead, hlead⟩ := h
  rw [String.toList_append] at hlead
  obtain ⟨before, after, hcut, hlength⟩ :=
    Text.exists_cut?_append keySeparator.toList lead back.toList
  rw [hlead] at hcut
  have hsplit := Text.eq_append_of_cut? hcut
  rw [List.append_assoc] at hsplit
  -- Both are ends of the name, and the suffix starts no later.
  have hlonger : (keySeparator.toList ++ back.toList).length ≤
      (keySeparator.toList ++ after).length := by
    have hsame := congrArg List.length (hlead.trans hsplit)
    simp only [List.length_append] at hsame ⊢
    omega
  obtain ⟨front, hfront⟩ := List.suffix_of_suffix_length_le ⟨lead, hlead⟩
    ⟨before, hsplit.symm⟩ hlonger
  refine ⟨String.ofList front, ?_⟩
  rw [suffixOf?, hcut, Option.map_some, Option.some.injEq, ← String.toList_inj]
  simp only [String.toList_append, String.toList_ofList]
  exact hfront.symm

namespace Collection

variable {c : Collection} {before made after : FileTree} {directory name : String}
  {place paths : List String} {file : Artifact}

/-- The name has the suffix of the migration. -/
def SharesSuffix (name : String) (file : Artifact) : Prop :=
  ∃ suffix, file.suffix? = some suffix ∧ Artifact.suffixOf? name = some suffix

/-- The name has another suffix, which ends with that of the migration. -/
def EndsInSuffix (name : String) (file : Artifact) : Prop :=
  ∃ front suffix, front ≠ "" ∧ file.suffix? = some suffix ∧
    Artifact.suffixOf? name = some (front ++ suffix)

/-- A name clashes with a migration when its suffix is that of the migration, or ends with it. -/
theorem clashes_iff :
    clashes name file = true ↔ SharesSuffix name file ∨ EndsInSuffix name file := by
  unfold clashes
  cases hsuffix : file.suffix? with
  | none => simp [SharesSuffix, EndsInSuffix, hsuffix]
  | some suffix =>
    dsimp only
    rw [List.isSuffixOf_iff_suffix]
    constructor
    · intro hends
      obtain ⟨⟨_, back⟩, -, rfl⟩ := Option.map_eq_some_iff.1 hsuffix
      obtain ⟨front, hfront⟩ := Artifact.exists_suffixOf?_eq hends
      -- A name that ends in the suffix has it as its own, or has more in front of it.
      by_cases hempty : front = ""
      · rw [hempty, String.empty_append] at hfront
        exact .inl ⟨_, hsuffix, hfront⟩
      · exact .inr ⟨front, _, hempty, hsuffix, hfront⟩
    · rintro (⟨_, hshared, hname⟩ | ⟨front, _, -, hshared, hname⟩)
      · obtain rfl := Option.some.inj (hsuffix.symm.trans hshared)
        exact Artifact.isSuffix_of_suffixOf? hname
      · obtain rfl := Option.some.inj (hsuffix.symm.trans hshared)
        refine List.IsSuffix.trans ?_ (Artifact.isSuffix_of_suffixOf? hname)
        rw [String.toList_append]
        exact List.suffix_append _ _

/-- A directory that is there is refused when its own name or one in it clashes with a
migration. -/
theorem run_writeTo_refused_iff
    (hthere : before.locate directory = .ok (place, some .directory)) :
    (∃ path reason, (c.writeTo (m := StateM FileTree) directory false).run.run before =
      (.error (.duplicateArtifact path reason), before)) ↔
      ∃ file ∈ c.migrations, clashes (Path.finalName directory) file = true ∨
        ∃ name, before.get? (place ++ [name]) ≠ none ∧ clashes name file = true := by
  obtain ⟨names, hnames, hmem⟩ := FileTree.exists_namesIn hthere
  have hexists : before.pathExists directory = true := by
    rw [FileTree.pathExists, hthere]
  have hcheck := run_checkDirectory_eq c.migrations directory before
  rw [if_pos hexists, hnames, verdict] at hcheck
  cases hclash : findClash c.migrations (Path.finalName directory :: names) with
  | some clash =>
    obtain ⟨name, file⟩ := clash
    rw [hclash] at hcheck
    obtain ⟨hname, hfile, hclashes⟩ := mem_of_findClash hclash
    refine iff_of_true ⟨file.path, _, run_bind_of_error hcheck _⟩ ⟨file, hfile, ?_⟩
    rcases List.mem_cons.1 hname with rfl | hname
    · exact .inl hclashes
    · exact .inr ⟨name, (hmem name).1 hname, hclashes⟩
  | none =>
    rw [hclash] at hcheck
    dsimp only at hcheck
    have hapart := findClash_eq_none_iff.1 hclash
    refine iff_of_false ?_ ?_
    · -- What fails behind the check fails for another reason.
      rintro ⟨path, reason, hrun⟩
      rcases run_writeTo_error FileTree.fallible_fileTree hrun with ⟨-, hrefused⟩ |
        ⟨-, _, hother⟩ | ⟨_, _, _, _, _, -, -, -, -, _, hother⟩
      · rw [hcheck] at hrefused
        cases hrefused
      · cases hother
      · cases hother
    · rintro ⟨file, hfile, hself | ⟨name, hname, hclashes⟩⟩
      · rw [hapart _ List.mem_cons_self file hfile] at hself
        cases hself
      · rw [hapart name (List.mem_cons_of_mem _ ((hmem name).2 hname)) file hfile] at hclashes
        cases hclashes

/-- The names in a place that have the suffix of a migration. -/
def namesakes (tree : FileTree) (place : List String) (file : Artifact) : Set String :=
  {name | tree.get? (place ++ [name]) ≠ none ∧ SharesSuffix name file}

/-- A migration whose suffix is that of no other one is written to its namesakes. -/
theorem namesakes_of_run (hnamed : NamedApart c.migrations)
    (hplace : made.walk directory = .ok place)
    (hwrite : (c.migrations.mapM (writeFile (m := StateM FileTree) directory)).run.run made =
      (.ok paths, after))
    (hfile : file ∈ c.migrations) (hself : SharesSuffix file.path file)
    (halone : ∀ other ∈ c.migrations, SharesSuffix other.path file → other = file) :
    namesakes after place file = insert file.path (namesakes made place file) := by
  obtain ⟨-, -, -, htexts, hframe⟩ :=
    run_writeFiles FileTree.fallible_fileTree hplace hnamed hwrite
  rw [id_eq] at htexts hframe
  ext name
  -- A name has been written by the run, or what it stands for is as before.
  by_cases hwritten : ∃ other ∈ c.migrations, name = other.path
  · obtain ⟨other, hother, rfl⟩ := hwritten
    constructor
    · rintro ⟨-, hshared⟩
      exact .inl (congrArg Artifact.path (halone other hother hshared))
    · rintro (hsame | ⟨-, hshared⟩)
      · exact ⟨by simp [htexts other hother], hsame ▸ hself⟩
      · exact ⟨by simp [htexts other hother], hshared⟩
  · have hsame : after.get? (place ++ [name]) = made.get? (place ++ [name]) := by
      refine hframe _ fun other hother happend => hwritten ⟨other, hother, ?_⟩
      simpa using happend
    have hne : name ≠ file.path := fun h => hwritten ⟨file, hfile, h⟩
    rw [Set.mem_insert_iff, or_iff_right hne]
    exact and_congr_left fun _ => by rw [hsame]

end Collection

namespace Generator

variable {config : Config} {schema : Schema} {now : Moment} {output : Collection}
  {before after : FileTree} {directory : String} {place paths : List String}

/-- The suffixes of a run are made of its names. -/
theorem map_suffix? (h : generate config now schema = .ok output) :
    output.migrations.map Artifact.suffix? = (emittedNames config schema.toModel).map
      fun name => some (keySeparator ++ (name ++ ("_table." ++ config.extension))) := by
  have hnames := emitted_of_generate h
  generalize output.migrations = files, emittedNames config schema.toModel = names at hnames
  induction hnames with
  | nil => rfl
  | cons hfirst _ ih => rw [List.map_cons, List.map_cons, hfirst.suffix?_eq, ih]

/-- The migrations of a run have distinct suffixes. -/
theorem nodup_suffixes (h : generate config now schema = .ok output) :
    (output.migrations.map Artifact.suffix?).Nodup := by
  obtain ⟨hcheck, -⟩ := generate_eq_ok_iff.1 h
  rw [map_suffix? h]
  refine (accepted_of_check hcheck).nodup_emitted_classes.of_map.map ?_
  intro name other hsame
  rw [Option.some.injEq, ← String.toList_inj] at hsame
  simp only [String.toList_append] at hsame
  exact String.toList_inj.1 (List.append_cancel_right (List.append_cancel_left hsame))

/-- A migration of a run has a suffix. -/
theorem exists_suffix?_of_mem (h : generate config now schema = .ok output) {file : Artifact}
    (hfile : file ∈ output.migrations) : ∃ suffix, file.suffix? = some suffix := by
  have hmem := List.mem_map_of_mem (f := Artifact.suffix?) hfile
  rw [map_suffix? h] at hmem
  obtain ⟨name, -, hname⟩ := List.mem_map.1 hmem
  exact ⟨_, hname.symm⟩

/-- A directory that is there is refused when a name in it has the suffix of a migration. It is
refused also when a name in it has a longer suffix that ends in this way, or when its own name
does. -/
theorem refused_directory (h : generate config now schema = .ok output)
    (hthere : before.locate directory = .ok (place, some .directory)) :
    output.migrations.map Artifact.suffix? = (emittedNames config schema.toModel).map
        (fun name => some (keySeparator ++ (name ++ ("_table." ++ config.extension)))) ∧
      ((∃ path reason, (output.writeTo (m := StateM FileTree) directory false).run.run before =
          (.error (.duplicateArtifact path reason), before)) ↔
        ∃ file ∈ output.migrations,
          (∃ name, before.get? (place ++ [name]) ≠ none ∧ Collection.SharesSuffix name file) ∨
          (∃ name, before.get? (place ++ [name]) ≠ none ∧ Collection.EndsInSuffix name file) ∨
          Collection.SharesSuffix (Path.finalName directory) file ∨
          Collection.EndsInSuffix (Path.finalName directory) file) := by
  refine ⟨map_suffix? h, ?_⟩
  rw [Collection.run_writeTo_refused_iff hthere]
  refine exists_congr fun file => and_congr_right fun _ => ?_
  simp only [Collection.clashes_iff, and_or_left, exists_or]
  rw [or_comm, or_assoc]

/-! ### A directory with a longer suffix in it -/

/-- The name under which a file for another table ends like the migration. -/
def longerName : String := "2019_05_05_120000_create_audit_create_users_table.php"

/-- The one name in a directory with one file. -/
theorem eq_of_get?_oneFile {directory name other : String}
    (h : (oneFile directory name).get? ([directory] ++ [other]) ≠ none) : other = name := by
  have hmem := FileTree.mem_childNames_iff.2 h
  simpa [FileTree.childNames, FileTree.places, oneFile] using hmem

theorem locate_oneFile_out (name : String) :
    (oneFile "out" name).locate "out" = .ok (["out"], some .directory) := rfl

/-- A directory with a file for the audit of users is refused. -/
theorem refused_directory_longer :
    generate fixedTime firstMoment singleTable = .ok singleOutput ∧
      (oneFile "out" longerName).locate "out" = .ok (["out"], some .directory) ∧
      ∃ path reason, (singleOutput.writeTo (m := StateM FileTree) "out" false).run.run
        (oneFile "out" longerName) = (.error (.duplicateArtifact path reason),
          oneFile "out" longerName) := by
  refine ⟨generate_singleTable, locate_oneFile_out _, ?_⟩
  refine (refused_directory generate_singleTable (locate_oneFile_out _)).2.2
    ⟨singleMigration, List.mem_singleton_self _, .inr (.inl ⟨longerName, ?_, ?_⟩)⟩
  · decide
  · exact ⟨"_create_audit", "_create_users_table.php", by decide, by decide,
      by decide⟩

/-- No name in the directory that is refused has the suffix of the migration. -/
theorem refused_without_namesake :
    (∃ path reason, (singleOutput.writeTo (m := StateM FileTree) "out" false).run.run
        (oneFile "out" longerName) = (.error (.duplicateArtifact path reason),
          oneFile "out" longerName)) ∧
      generate fixedTime firstMoment singleTable = .ok singleOutput ∧
      (oneFile "out" longerName).locate "out" = .ok (["out"], some .directory) ∧
      ¬ ∃ file ∈ singleOutput.migrations, ∃ name,
        (oneFile "out" longerName).get? (["out"] ++ [name]) ≠ none ∧
          Collection.SharesSuffix name file := by
  refine ⟨?_, generate_singleTable, locate_oneFile_out _, ?_⟩
  · rw [Collection.run_writeTo_refused_iff (locate_oneFile_out _)]
    exact ⟨singleMigration, List.mem_singleton_self _, .inr ⟨longerName, by decide⟩⟩
  · rintro ⟨file, hfile, name, hname, _, hsuffix, hshared⟩
    obtain rfl := eq_of_get?_oneFile hname
    obtain rfl := List.mem_singleton.1 hfile
    have hapart : singleMigration.suffix? ≠ Artifact.suffixOf? longerName := by decide
    exact hapart (hsuffix.trans hshared.symm)

/-! ### Replacing the migrations of a directory -/

/-- A migration that is written is added to the names of its suffix in the directory, once that is
made. It is the only one of them exactly when there has been no other. -/
theorem replaced_migrations (h : generate config now schema = .ok output)
    (hwrite : (output.writeTo (m := StateM FileTree) directory true).run.run before =
      (.ok paths, after)) :
    ∃ made place, before.makeDirectories directory = (.ok (), made) ∧
      (∀ there, before.locate directory = .ok (there, some .directory) →
        made = before ∧ place = there) ∧
      output.Written directory place before after ∧
      ∀ file ∈ output.migrations,
        Collection.namesakes after place file =
          insert file.path (Collection.namesakes made place file) ∧
        (Collection.namesakes after place file = {file.path} ↔
          Collection.namesakes made place file ⊆ {file.path}) := by
  have hnamed := namedApart_of_generate h
  obtain ⟨checked, made, hsame, -, hmake, hfiles⟩ :=
    Collection.run_writeTo FileTree.fallible_fileTree hwrite
  obtain ⟨-, place, hplace, hwritten⟩ :=
    Collection.written_of_run FileTree.fallible_fileTree hnamed hmake hfiles
  refine ⟨made, place, hmake, fun there hthere => ?_, hwritten, fun file hfile => ?_⟩
  · obtain ⟨-, rfl⟩ := Prod.mk.inj (hmake.symm.trans (FileTree.makeDirectories_of_directory hthere))
    exact ⟨rfl, FileTree.walk_inj rfl hplace (FileTree.locate_directory_iff.1 hthere).2⟩
  · obtain ⟨suffix, hsuffix⟩ := exists_suffix?_of_mem h hfile
    -- No other migration of the run has the suffix, so only this one is added.
    have hinsert := Collection.namesakes_of_run hnamed hplace hfiles hfile
      ⟨suffix, hsuffix, hsuffix⟩ fun other hother ⟨_, hshared, hsame⟩ =>
        List.inj_on_of_nodup_map (nodup_suffixes h) hother hfile (hsame.trans hshared.symm)
    refine ⟨hinsert, ?_⟩
    rw [hinsert]
    constructor
    · exact fun hall => hall ▸ Set.subset_insert _ _
    · exact fun hsub => Set.Subset.antisymm (Set.insert_subset rfl hsub)
        (Set.singleton_subset_iff.2 (Set.mem_insert _ _))

/-- The name of an earlier migration for the users. -/
def earlierName : String := "2019_05_05_120000_create_users_table.php"

theorem exists_run_beside_earlier : ∃ after,
    (singleOutput.writeTo (m := StateM FileTree) "out" true).run.run (oneFile "out" earlierName) =
      (.ok ["out/2023_06_24_000000_create_users_table.php"], after) :=
  exists_run_of_toOption (by decide)

/-- The earlier migration has the suffix of the new one. -/
theorem namesakes_oneFile_earlier : Collection.namesakes (oneFile "out" earlierName) ["out"]
    singleMigration = {earlierName} := by
  ext name
  constructor
  · exact fun hname => eq_of_get?_oneFile hname.1
  · rintro rfl
    exact ⟨by decide, "_create_users_table.php", by decide, by decide⟩

/-- An earlier migration stays beside the new one. -/
theorem replaced_migrations_earlier :
    ∃ after, generate fixedTime firstMoment singleTable = .ok singleOutput ∧
      (singleOutput.writeTo (m := StateM FileTree) "out" true).run.run
        (oneFile "out" earlierName) =
          (.ok ["out/2023_06_24_000000_create_users_table.php"], after) ∧
      Collection.namesakes after ["out"] singleMigration =
        {singleMigration.path, earlierName} := by
  obtain ⟨after, hwrite⟩ := exists_run_beside_earlier
  obtain ⟨made, place, -, hthere, -, hall⟩ := replaced_migrations generate_singleTable hwrite
  obtain ⟨rfl, rfl⟩ := hthere _ (locate_oneFile_out _)
  obtain ⟨hinsert, -⟩ := hall singleMigration (List.mem_singleton_self _)
  rw [namesakes_oneFile_earlier] at hinsert
  exact ⟨after, generate_singleTable, hwrite, hinsert⟩

/-- Two names in the directory have the suffix of the migration after it was written. -/
theorem not_replaced_earlier :
    ∃ after, generate fixedTime firstMoment singleTable = .ok singleOutput ∧
      (singleOutput.writeTo (m := StateM FileTree) "out" true).run.run
        (oneFile "out" earlierName) =
          (.ok ["out/2023_06_24_000000_create_users_table.php"], after) ∧
      Collection.namesakes after ["out"] singleMigration ≠ {singleMigration.path} := by
  obtain ⟨after, hwrite⟩ := exists_run_beside_earlier
  refine ⟨after, generate_singleTable, hwrite, fun hsingle => ?_⟩
  -- The earlier file is none of those that are written, so it is still there.
  obtain ⟨-, -, made, place, hmake, hplace, hwritten⟩ :=
    written_of_generate generate_singleTable hwrite
  have hearlier : earlierName ≠ singleMigration.path := by decide
  obtain rfl : place = ["out"] := by
    obtain ⟨-, rfl⟩ := Prod.mk.inj
      (hmake.symm.trans (FileTree.makeDirectories_of_directory (locate_oneFile_out _)))
    exact FileTree.walk_inj rfl hplace
      (FileTree.locate_directory_iff.1 (locate_oneFile_out earlierName)).2
  have hmem : earlierName ∈ Collection.namesakes (oneFile "out" earlierName) ["out"]
      singleMigration := namesakes_oneFile_earlier ▸ rfl
  have hkept : earlierName ∈ Collection.namesakes after ["out"] singleMigration := by
    have hapart : ∀ file ∈ singleOutput.migrations, ["out", earlierName] ≠ ["out"] ++ [file.path] :=
      List.forall_mem_singleton.2 (by simpa using hearlier)
    rcases hwritten.others ["out", earlierName] hapart with hsame | ⟨hnone, -⟩
    · exact ⟨fun hgone => hmem.1 (hsame ▸ hgone), hmem.2⟩
    · exact absurd hnone hmem.1
  rw [hsingle] at hkept
  exact hearlier hkept

end Generator

end SchemaMigration
