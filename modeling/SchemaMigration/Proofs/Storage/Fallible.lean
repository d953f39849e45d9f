import SchemaMigration.Proofs.Storage.TemporaryFile
import SchemaMigration.Storage.FaultyTree

/-!
# `SchemaMigration.Proofs.Storage.Fallible`: what a failing operation may leave

Storage keeps its files in a tree and fails when it likes. `Fallible` is what an archive and a
directory of files rely on nevertheless. An operation that answers ok has done its work in the
files. Making directories adds directories and nothing else, however far it gets. A text that
could not be written may be there in part, in the place of its file and nowhere else. A temporary
file stands under a name that nothing else has, or is not there. An entry that could not be written
may be in its archive with a part of its text, or the archive may be lost with its temporary file.
An archive is put in place as a whole; when that fails, its temporary file is deleted like that of
an archive that is given up.

A file tree is such a storage, which fails only for what stands in it
(`fallible_fileTree`). A faulty tree is one that fails at any point
(`fallible_faultyTree`).
-/

set_option autoImplicit false

namespace SchemaMigration

open FileTree (AddsDirectories)

namespace FileTree

/-- An attempt to write a file has left it alone, or something of it in its place. -/
def SpoilsFile (before : FileTree) (path : String) (after : FileTree) : Prop :=
  after = before ∨ ∃ place entry, before.writable path = .ok place ∧ entry ≠ .directory ∧
    after = before.put place entry

/-- An attempt to add an entry to the archive in a temporary file has left the archive alone, or
the entry with some text in it, or nothing of the file. -/
def SpoilsEntry (before : FileTree) (temporary name : String) (after : FileTree) : Prop :=
  after = before ∨ (∃ member : ArchiveMember, member.name = name ∧
      after = before.addMember temporary member) ∨
    after = before.discardTemporary temporary

end FileTree

namespace Storage

variable {σ : Type} [Storage (StateM σ)]

/-- Operations do their work in the files of a storage, or fail. -/
structure Fallible (files : σ → FileTree) : Prop where
  /-- Looking for a file changes none. -/
  pathExists : ∀ path s, files ((Storage.pathExists path : StateM σ _).run s).2 = files s
  /-- Looking at a directory changes no file. -/
  namesIn : ∀ path s, files ((Storage.namesIn path : StateM σ _).run s).2 = files s
  makeDirectories_ok : ∀ path s after,
    (Storage.makeDirectories path : StateM σ _).run s = (.ok (), after) →
      (files s).makeDirectories path = (.ok (), files after)
  /-- Directories are made, if not all of those that are needed. -/
  makeDirectories : ∀ path s, AddsDirectories (files s)
    (files ((Storage.makeDirectories path : StateM σ _).run s).2)
  writeText_ok : ∀ path text s after,
    (Storage.writeText path text : StateM σ _).run s = (.ok (), after) →
      (files s).writeText path text = (.ok (), files after)
  /-- A text that cannot be written may be there in part. -/
  writeText_error : ∀ path text s reason after,
    (Storage.writeText path text : StateM σ _).run s = (.error reason, after) →
      (files s).SpoilsFile path (files after)
  /-- A temporary file takes the place of nothing. -/
  openTemporary_ok : ∀ directory s temporary after,
    (Storage.openTemporary directory : StateM σ _).run s = (.ok temporary, after) →
      (files s).AddsTemporary temporary [] (files after)
  /-- One that cannot be opened has not been made. -/
  openTemporary_error : ∀ directory s reason after,
    (Storage.openTemporary directory : StateM σ _).run s = (.error reason, after) →
      files after = files s
  addEntry_ok : ∀ temporary name text s after,
    (Storage.addEntry temporary name text : StateM σ _).run s = (.ok (), after) →
      (files s).addEntry temporary name text = (.ok (), files after)
  /-- An entry that cannot be added may be there in part. -/
  addEntry_error : ∀ temporary name text s reason after,
    (Storage.addEntry temporary name text : StateM σ _).run s = (.error reason, after) →
      (files s).SpoilsEntry temporary name (files after)
  /-- Deleting a temporary file does not fail. -/
  discardTemporary : ∀ temporary s,
    files ((Storage.discardTemporary temporary : StateM σ _).run s).2 =
      (files s).discardTemporary temporary
  /-- An archive is put at its target as a whole. -/
  placeArchive_ok : ∀ temporary target s after,
    (Storage.placeArchive temporary target : StateM σ _).run s = (.ok (), after) →
      (files s).placeArchive temporary target = (.ok (), files after)
  /-- When that fails, only its temporary file is deleted. -/
  placeArchive_error : ∀ temporary target s reason after,
    (Storage.placeArchive temporary target : StateM σ _).run s = (.error reason, after) →
      files after = (files s).discardTemporary temporary

end Storage

namespace FileTree

variable {tree after : FileTree} {path text name temporary target directory reason : String}

theorem writeText_eq_error (h : tree.writeText path text = (.error reason, after)) :
    after = tree := by
  unfold writeText at h
  split at h
  · cases (Prod.mk.inj h).1
  · exact (Prod.mk.inj h).2.symm

theorem openTemporary_eq_error (h : tree.openTemporary directory = (.error reason, after)) :
    after = tree := by
  unfold openTemporary at h
  dsimp only at h
  split at h
  · cases (Prod.mk.inj h).1
  · exact (Prod.mk.inj h).2.symm

theorem addEntry_eq_error (h : tree.addEntry temporary name text = (.error reason, after)) :
    after = tree := by
  unfold addEntry at h
  split at h
  · split at h
    · exact (Prod.mk.inj h).2.symm
    · cases (Prod.mk.inj h).1
  · exact (Prod.mk.inj h).2.symm

theorem placeArchive_eq_error (h : tree.placeArchive temporary target = (.error reason, after)) :
    after = tree.discardTemporary temporary := by
  unfold placeArchive at h
  dsimp only at h
  split at h
  · exact (Prod.mk.inj h).2.symm
  · split at h
    · cases (Prod.mk.inj h).1
    · exact (Prod.mk.inj h).2.symm

/-- A file tree is a storage of its own files. -/
theorem fallible_fileTree : Storage.Fallible (id : FileTree → FileTree) where
  pathExists path tree := rfl
  namesIn path tree := rfl
  makeDirectories_ok path tree after h := by
    rwa [run_makeDirectories] at h
  makeDirectories path tree := by
    rw [run_makeDirectories]
    exact addsDirectories_makeDirectories tree path
  writeText_ok path text tree after h := by
    rwa [run_writeText] at h
  writeText_error path text tree reason after h := by
    rw [run_writeText] at h
    exact .inl (writeText_eq_error h)
  openTemporary_ok directory tree temporary after h := by
    rw [run_openTemporary] at h
    exact addsTemporary_of_openTemporary h
  openTemporary_error directory tree reason after h := by
    rw [run_openTemporary] at h
    exact openTemporary_eq_error h
  addEntry_ok temporary name text tree after h := by
    rwa [run_addEntry] at h
  addEntry_error temporary name text tree reason after h := by
    rw [run_addEntry] at h
    exact .inl (addEntry_eq_error h)
  discardTemporary temporary tree := by
    rw [run_discardTemporary]
    rfl
  placeArchive_ok temporary target tree after h := by
    rwa [run_placeArchive] at h
  placeArchive_error temporary target tree reason after h := by
    rw [run_placeArchive] at h
    exact placeArchive_eq_error h

end FileTree

namespace FaultyTree

variable {α : Type} {work : FileTree → Except String α × FileTree}
  {spoil : Fault → FileTree → FileTree} {tree after : FaultyTree} {reason : String}

/-- An operation does its work, or takes a fault from the plan. -/
theorem inTurn_cases {result : Except String α}
    (h : (inTurn work spoil).run tree = (result, after)) :
    work tree.files = (result, after.files) ∨
      ∃ fault : Fault, result = .error fault.reason ∧ after.files = spoil fault tree.files := by
  have hrun : (inTurn work spoil).run tree = turn work spoil tree := rfl
  rw [hrun, turn] at h
  split at h
  · next fault _ =>
    obtain ⟨rfl, rfl⟩ := Prod.mk.inj h
    exact .inr ⟨fault, rfl, rfl⟩
  · obtain ⟨rfl, rfl⟩ := Prod.mk.inj h
    exact .inl rfl

/-- An operation that answers ok has done its work. -/
theorem inTurn_eq_ok {a : α} (h : (inTurn work spoil).run tree = (.ok a, after)) :
    work tree.files = (.ok a, after.files) := by
  rcases inTurn_cases h with hwork | ⟨_, hresult, -⟩
  · exact hwork
  · cases hresult

/-- What an operation leaves that fails is what the files leave of it, or what a fault does. -/
theorem inTurn_eq_error {r : FileTree → Prop}
    (h : (inTurn work spoil).run tree = (.error reason, after))
    (hwork : ∀ reason files, work tree.files = (.error reason, files) → r files)
    (hspoil : ∀ fault, r (spoil fault tree.files)) : r after.files := by
  rcases inTurn_cases h with hdone | ⟨fault, -, hspoilt⟩
  · exact hwork _ _ hdone
  · rw [hspoilt]
    exact hspoil fault

theorem spoilsFile_cutText (path text : String) (fault : Fault) (files : FileTree) :
    files.SpoilsFile path (cutText path text fault files) := by
  unfold cutText
  split
  · next part _ =>
    rw [FileTree.writeText]
    split
    · next place hplace => exact .inr ⟨place, .text part, hplace, nofun, rfl⟩
    · exact .inl rfl
  · exact .inl rfl

theorem spoilsEntry_cutEntry (temporary name text : String) (fault : Fault) (files : FileTree) :
    files.SpoilsEntry temporary name (cutEntry temporary name text fault files) := by
  unfold cutEntry
  split
  · next part _ => exact .inr (.inl ⟨.ofEntry name part, rfl, rfl⟩)
  · exact .inl rfl

/-- A faulty tree is a storage, whatever the plan of its faults is. -/
theorem fallible_faultyTree : Storage.Fallible FaultyTree.files where
  pathExists path tree := rfl
  namesIn path tree := rfl
  makeDirectories_ok path tree after h := inTurn_eq_ok h
  makeDirectories path tree := by
    generalize hrun : (Storage.makeDirectories path : StateM FaultyTree _).run tree = made
    -- An operation works as on the tree below, or it fails and changes nothing.
    rcases inTurn_cases hrun with hwork | ⟨fault, -, hspoilt⟩
    · have hadds := FileTree.addsDirectories_makeDirectories tree.files path
      rwa [hwork] at hadds
    · rw [hspoilt]
      exact .refl tree.files
  writeText_ok path text tree after h := inTurn_eq_ok h
  writeText_error path text tree reason after h :=
    inTurn_eq_error (r := (tree.files.SpoilsFile path ·)) h
      (fun _ _ hwork => .inl (FileTree.writeText_eq_error hwork))
      fun fault => spoilsFile_cutText path text fault tree.files
  openTemporary_ok directory tree temporary after h := by
    have hwork := inTurn_eq_ok h
    exact FileTree.addsTemporary_of_openTemporary hwork
  openTemporary_error directory tree reason after h :=
    inTurn_eq_error (r := (· = tree.files)) h
      (fun _ _ hwork => FileTree.openTemporary_eq_error hwork) fun _ => rfl
  addEntry_ok temporary name text tree after h := inTurn_eq_ok h
  addEntry_error temporary name text tree reason after h :=
    inTurn_eq_error (r := (tree.files.SpoilsEntry temporary name ·)) h
      (fun _ _ hwork => .inl (FileTree.addEntry_eq_error hwork))
      fun fault => spoilsEntry_cutEntry temporary name text fault tree.files
  discardTemporary temporary tree := rfl
  placeArchive_ok temporary target tree after h := inTurn_eq_ok h
  placeArchive_error temporary target tree reason after h :=
    inTurn_eq_error (r := (· = tree.files.discardTemporary temporary)) h
      (fun _ _ hwork => FileTree.placeArchive_eq_error hwork) fun _ => rfl

end FaultyTree

end SchemaMigration
