import SchemaMigration.Proofs.Generation.DirectoryOutput

/-!
# `SchemaMigration.Proofs.Generation.NewDirectory`: a directory that is not there yet

`OpensDirectory` says that the storage operations of a new directory succeed in a file tree: the
path leads to nothing, the directory can be made, and then a file of each name can be written to
it. No file that is written gets in the way of another (`writable_put`), so all of them are written
one after the other, and a collection with these names is written as a whole
(`OpensDirectory.exists_run`).
-/

set_option autoImplicit false

namespace SchemaMigration

open SchemaMigration.Calendar
open SchemaMigration.Outcome

namespace FileTree

variable {tree : FileTree} {place other : List String} {path text : String}

/-- A path that leads to no directory can be written. -/
theorem writable_of_inside {directory : List String} {name : String}
    (happroach : tree.approach path = .ok (directory, name))
    (hinside : inside directory name = .ok place) (hfile : tree.get? place ≠ some .directory)
    (hplain : (Path.hasTrailingSlash path || name = "." || name = "..") = false) :
    tree.writable path = .ok place := by
  rw [writable, locate, happroach, ok_bind]
  dsimp only
  rw [hinside, ok_bind, hplain]
  cases hentry : tree.get? place with
  | none => rfl
  | some entry =>
    cases entry with
    | directory => exact absurd hentry hfile
    | text | archive | unfinished => rfl

/-- A file that is put somewhere does not get in the way of another, nor of the next version of
itself. -/
theorem writable_put (h : tree.writable path = .ok place)
    (hother : tree.get? other ≠ some .directory) :
    (tree.put other (.text text)).writable path = .ok place := by
  obtain ⟨directory, name, happroach, hinside, hfile, hplain⟩ := writable_eq_ok h
  refine writable_of_inside ((keepsDirectories_put hother).approach happroach) hinside ?_ hplain
  by_cases hsame : place = other
  · subst hsame
    rw [get?_put_self hfile]
    nofun
  · rwa [get?_put_of_ne hsame]

end FileTree

/-- The storage operations of a directory that is not there yet succeed in a tree, for files of
some names. -/
structure OpensDirectory (tree : FileTree) (directory : String) (names : List String) : Prop where
  absent : tree.pathExists directory = false
  makes : ∃ made, tree.makeDirectories directory = (.ok (), made) ∧
    ∀ name ∈ names, ∃ place, made.writable (Path.join directory name) = .ok place

namespace Collection

variable {tree : FileTree} {files : List Artifact} {file : Artifact} {directory : String}
  {place : List String}

/-- A file is put where its path leads. -/
theorem run_writeFile_of_writable
    (h : tree.writable (Path.join directory file.path) = .ok place) :
    (writeFile (m := StateM FileTree) directory file).run.run tree =
      (.ok (Path.join directory file.path), tree.put place (.text file.content)) := by
  have hwrite : (Storage.writeText (Path.join directory file.path) file.content :
      StateM FileTree _).run tree = (.ok (), tree.put place (.text file.content)) := by
    rw [FileTree.run_writeText, FileTree.writeText, h]
  unfold writeFile
  rw [run_bind_of_ok (run_attempt hwrite _)]
  rfl

/-- Files whose paths can all be written are written one after the other. -/
theorem exists_run_writeFiles
    (h : ∀ file ∈ files, ∃ place, tree.writable (Path.join directory file.path) = .ok place) :
    ∃ paths after, (files.mapM (writeFile (m := StateM FileTree) directory)).run.run tree =
      (.ok paths, after) := by
  induction files generalizing tree with
  | nil => exact ⟨[], tree, rfl⟩
  | cons file rest ih =>
    obtain ⟨⟨place, hplace⟩, hrest⟩ := List.forall_mem_cons.1 h
    obtain ⟨-, -, -, -, hfile, -⟩ := FileTree.writable_eq_ok hplace
    obtain ⟨paths, after, hwritten⟩ := ih fun other hother =>
      (hrest other hother).imp fun _ hwritable => FileTree.writable_put hwritable hfile
    refine ⟨Path.join directory file.path :: paths, after, ?_⟩
    rw [List.mapM_cons, run_bind_of_ok (run_writeFile_of_writable hplace),
      run_bind_of_ok hwritten]
    rfl

/-- A directory that is not there is not looked at. -/
theorem run_checkDirectory_of_absent (h : tree.pathExists directory = false)
    (migrations : List Artifact) :
    (checkDirectory (m := StateM FileTree) migrations directory).run.run tree =
      (.ok (), tree) := by
  rw [run_checkDirectory_eq, h]
  rfl

end Collection

/-- Where a directory can be opened, the migrations with its names are written. -/
theorem OpensDirectory.exists_run {tree : FileTree} {directory : String} {c : Collection}
    (h : OpensDirectory tree directory (c.migrations.map (·.path))) (overwrite : Bool) :
    ∃ paths after, (c.writeTo (m := StateM FileTree) directory overwrite).run.run tree =
      (.ok paths, after) := by
  obtain ⟨made, hmake, hnames⟩ := h.makes
  obtain ⟨paths, after, hwrite⟩ := Collection.exists_run_writeFiles fun file hfile =>
    hnames file.path (List.mem_map_of_mem hfile)
  have hunchecked : (c.writeTo (m := StateM FileTree) directory true).run.run tree =
      (.ok paths, after) := by
    have hmade := (FileTree.run_makeDirectories directory tree).trans hmake
    exact (run_bind_of_ok (run_attempt hmade _) _).trans hwrite
  refine ⟨paths, after, ?_⟩
  -- The directory is not there, so there is nothing to look at in it.
  cases overwrite with
  | true => exact hunchecked
  | false =>
    rw [Collection.writeTo_false,
      run_bind_of_ok (Collection.run_checkDirectory_of_absent h.absent c.migrations)]
    exact hunchecked

/-- The migrations of a run are its files but the snapshot. -/
theorem Generator.migrations_eq_filter {config : Config} {now : Moment} {schema : Schema}
    {output : Collection} (h : generate config now schema = .ok output) :
    output.migrations = output.files.filter (·.path != snapshotName) := by
  obtain ⟨-, -, _, tableFiles, relationFiles, -, hproduced⟩ := produced_of_generate h rfl
  have hfiles : output.files = output.migrations ++ [.snapshot schema.snapshot] := by
    rw [hproduced.artifacts_eq, hproduced.migrations_eq output.warnings]
  have hkept : output.migrations.filter (·.path != snapshotName) = output.migrations :=
    List.filter_eq_self.2 fun file hfile => bne_iff_ne.2 fun hpath =>
      (paths_of_generate h).2 (hpath ▸ List.mem_map_of_mem hfile)
  have hdropped : [Artifact.snapshot schema.snapshot].filter (·.path != snapshotName) = [] := rfl
  rw [hfiles, List.filter_append, hkept, hdropped, List.append_nil]

end SchemaMigration
