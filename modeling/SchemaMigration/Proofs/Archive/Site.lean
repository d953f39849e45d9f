import SchemaMigration.Proofs.Archive.WriterRun
import SchemaMigration.Proofs.Storage.TemporaryFile

/-!
# `SchemaMigration.Proofs.Archive.Site`: where an archive is written

A tree in which an archive can be opened has a place for it once its directory is made
(`exists_of_opensArchive`). From then on entries are added to a temporary file beside the target
(`Holds`), and nothing happens at the target until that archive is put there
(`Holds.placeArchive_eq`).
-/

set_option autoImplicit false

namespace SchemaMigration

/-- A place for an archive in a tree, and one for its temporary file. -/
structure ArchiveSite (tree : FileTree) (target : String) where
  temporary : String
  /-- The tree with the directory of the target. -/
  made : FileTree
  /-- The tree with the temporary file, which has no entries yet. -/
  opened : FileTree
  place : List String
  opens : OpensArchive tree target temporary opened
  adds : FileTree.AddsDirectories tree made
  begins : made.AddsTemporary temporary [] opened
  writable : made.writable target = .ok place

namespace ArchiveSite

variable {tree opened current : FileTree} {target temporary : String}

/-- A tree that an archive can be opened in has a site for it. -/
theorem exists_of_opensArchive (h : OpensArchive tree target temporary opened) :
    ∃ site : ArchiveSite tree target, site.temporary = temporary ∧
      (tree.makeDirectories (Path.parent target)).2.writable target = .ok site.place := by
  obtain ⟨made, hmake, hopen⟩ := h.makes
  have hbegins := FileTree.addsTemporary_of_openTemporary hopen
  have hadds := FileTree.addsDirectories_makeDirectories tree (Path.parent target)
  rw [hmake] at hadds ⊢
  -- The target can be written, since an archive can be put there.
  obtain ⟨place, hplace, -⟩ := hbegins.eq_of_placeArchive (Prod.ext h.places rfl)
  exact ⟨⟨temporary, made, opened, place, h, hadds, hbegins, hplace⟩, rfl, hplace⟩

variable (site : ArchiveSite tree target)

/-- No directory stands at the target. -/
theorem get?_ne_directory : site.made.get? site.place ≠ some .directory := by
  obtain ⟨-, -, -, -, hfile, -⟩ := FileTree.writable_eq_ok site.writable
  exact hfile

/-- Making the directory leaves what is at the target. -/
theorem get?_made : site.made.get? site.place = tree.get? site.place :=
  site.adds.get?_of_writable site.writable

/-- The temporary file has these entries, and nothing else has changed but that the directory of
the target is there. -/
def Holds (entries : ArchiveEntries) (current : FileTree) : Prop :=
  site.made.AddsTemporary site.temporary (ArchiveMember.ofEntries entries) current

/-- The tree with the archive. -/
def placed (entries : ArchiveEntries) : FileTree :=
  site.made.put site.place (.archive (ArchiveMember.ofEntries entries))

theorem get?_placed (entries : ArchiveEntries) : (site.placed entries).get? site.place =
    some (.archive (ArchiveMember.ofEntries entries)) :=
  FileTree.get?_put_self site.get?_ne_directory

/-- The archive at its place is read from there. -/
theorem readArchive_placed (entries : ArchiveEntries) :
    (site.placed entries).readArchive target = .ok (ArchiveMember.ofEntries entries) :=
  FileTree.readArchive_put site.writable

namespace Holds

variable {site} {entries : ArchiveEntries} (h : site.Holds entries current)

include h

/-- An entry with a new name is added. -/
theorem addEntry_eq {name : String} (hnew : name ∉ entries.map Prod.fst) (text : String) :
    ∃ after, current.addEntry site.temporary name text = (.ok (), after) ∧
      site.Holds (entries ++ [(name, text)]) after := by
  have hadd := FileTree.AddsTemporary.addEntry_eq h
    (by rwa [ArchiveMember.map_name_ofEntries]) text
  refine ⟨_, hadd, ?_⟩
  rw [Holds, ArchiveMember.ofEntries_concat]
  exact FileTree.AddsTemporary.addMember h _

/-- The archive takes the place of its temporary file. -/
theorem placeArchive_eq :
    current.placeArchive site.temporary target = (.ok (), site.placed entries) :=
  FileTree.AddsTemporary.placeArchive_eq h site.writable

theorem discardTemporary_eq : current.discardTemporary site.temporary = site.made :=
  FileTree.AddsTemporary.discardTemporary_eq h

/-- Until then there is at the target what there was, unless the temporary file has its name. -/
theorem get?_eq (hname : (Path.parts target).getLast? ≠ (Path.parts site.temporary).getLast?) :
    current.get? site.place = tree.get? site.place := by
  rw [← FileTree.getLast?_of_writable site.writable] at hname
  rw [FileTree.AddsTemporary.get?_of_ne h hname, site.get?_made]

end Holds

end ArchiveSite

end SchemaMigration
