import SchemaMigration.Proofs.Outcome
import SchemaMigration.Storage.FileTree

/-!
# `SchemaMigration.Proofs.Storage.Placement`: what is put somewhere is found there

A path is walked through directories only, so where it leads is not disturbed as long as
they and the working directory are kept (`KeepsDirectories`). A file that is put where no
directory stands keeps them all, and its own path still leads to it (`locate_put`). So an archive
that is put at its target is read back from there (`readArchive_put`).
-/

set_option autoImplicit false

namespace SchemaMigration.FileTree

open SchemaMigration.Outcome

variable {tree before after : FileTree} {place other start names : List String} {entry : Entry}
  {path : String}

/-! ### Operations of storage -/

theorem run_modifyGet {α : Type} (f : FileTree → α × FileTree) (tree : FileTree) :
    (modifyGet f : StateM FileTree α).run tree = f tree := rfl

theorem run_makeDirectories (path : String) (tree : FileTree) :
    (Storage.makeDirectories path : StateM FileTree _).run tree = tree.makeDirectories path :=
  run_modifyGet (fun tree => tree.makeDirectories path) tree

theorem run_pathExists (path : String) (tree : FileTree) :
    (Storage.pathExists path : StateM FileTree _).run tree = (tree.pathExists path, tree) := rfl

theorem run_namesIn (path : String) (tree : FileTree) :
    (Storage.namesIn path : StateM FileTree _).run tree = (tree.namesIn path, tree) := rfl

theorem run_writeText (path text : String) (tree : FileTree) :
    (Storage.writeText path text : StateM FileTree _).run tree = tree.writeText path text :=
  run_modifyGet (fun tree => tree.writeText path text) tree

theorem run_openTemporary (directory : String) (tree : FileTree) :
    (Storage.openTemporary directory : StateM FileTree _).run tree =
      tree.openTemporary directory :=
  run_modifyGet (fun tree => tree.openTemporary directory) tree

theorem run_addEntry (temporary name text : String) (tree : FileTree) :
    (Storage.addEntry temporary name text : StateM FileTree _).run tree =
      tree.addEntry temporary name text :=
  run_modifyGet (fun tree => tree.addEntry temporary name text) tree

theorem run_discardTemporary (temporary : String) (tree : FileTree) :
    (Storage.discardTemporary temporary : StateM FileTree _).run tree =
      ((), tree.discardTemporary temporary) :=
  run_modifyGet (fun tree => ((), tree.discardTemporary temporary)) tree

theorem run_placeArchive (temporary target : String) (tree : FileTree) :
    (Storage.placeArchive temporary target : StateM FileTree _).run tree =
      tree.placeArchive temporary target :=
  run_modifyGet (fun tree => tree.placeArchive temporary target) tree

/-! ### Places -/

/-- The directories down to the working directory always stand. -/
theorem get?_of_isPrefix (h : place <+: tree.workingDirectory) :
    tree.get? place = some .directory :=
  if_pos h

theorem get?_nil (tree : FileTree) : tree.get? [] = some .directory :=
  get?_of_isPrefix List.nil_prefix

/-- A path starts in a directory. -/
theorem get?_origin (tree : FileTree) (path : String) :
    tree.get? (tree.origin path) = some .directory := by
  unfold origin
  split
  · exact tree.get?_nil
  · exact get?_of_isPrefix (List.prefix_refl _)

theorem get?_put_self (h : tree.get? place ≠ some .directory) :
    (tree.put place entry).get? place = some entry := by
  have houtside : ¬ place <+: tree.workingDirectory := fun hlead => h (get?_of_isPrefix hlead)
  have hnone : (tree.entries.filter fun e => e.1 != place).lookup place = none := by
    rw [List.lookup_eq_none_iff]
    intro e he
    have := (List.mem_filter.1 he).2
    simpa [bne_comm] using this
  refine (if_neg houtside).trans ?_
  simp [put, List.lookup_append, hnone]

theorem lookup_filter_of_ne (h : other ≠ place) (entries : List (List String × Entry)) :
    (entries.filter fun e => e.1 != place).lookup other = entries.lookup other := by
  induction entries with
  | nil => rfl
  | cons e rest ih =>
    by_cases hplace : e.1 = place
    · have hmiss : (other == e.1) = false := by simpa [hplace] using h
      rw [List.filter_cons_of_neg (by simpa using hplace), ih, List.lookup_cons, hmiss]
    · rw [List.filter_cons_of_pos (by simpa using hplace), List.lookup_cons, List.lookup_cons, ih]

theorem get?_put_of_ne (h : other ≠ place) :
    (tree.put place entry).get? other = tree.get? other := by
  have hmiss : [(place, entry)].lookup other = none := by
    have : (other == place) = false := by simpa using h
    rw [List.lookup_cons, this]
    rfl
  have hlookup : (tree.put place entry).entries.lookup other = tree.entries.lookup other := by
    rw [put, List.lookup_append, lookup_filter_of_ne h, hmiss, Option.or_none]
  -- The working directory is the same.
  rw [get?, get?, hlookup]
  rfl

/-- What stands somewhere is a directory down to the working directory, or an entry. -/
theorem prefix_or_mem_of_get? (h : tree.get? place ≠ none) :
    place <+: tree.workingDirectory ∨ ∃ entry, (place, entry) ∈ tree.entries := by
  by_cases hprefix : place <+: tree.workingDirectory
  · exact .inl hprefix
  · rw [get?, if_neg hprefix] at h
    obtain ⟨entry, hentry⟩ := Option.ne_none_iff_exists'.1 h
    obtain ⟨front, back, hentries, -⟩ := List.lookup_eq_some_iff.1 hentry
    exact .inr ⟨entry, by simp [hentries]⟩

/-! ### Walks -/

/-- A step along a name leads to a directory. -/
theorem enter_cons_eq_ok_iff {name : String} : tree.enter start (name :: names) = .ok place ↔
    ∃ next, inside start name = .ok next ∧ tree.get? next = some .directory ∧
      tree.enter next names = .ok place := by
  rw [enter, bind_eq_ok_iff]
  refine exists_congr fun next => and_congr_right fun _ => ?_
  cases hnext : tree.get? next with
  | none => simp
  | some entry => cases entry <;> simp

/-- The directories of a tree are there in another, and paths start in the same of them. -/
structure KeepsDirectories (before after : FileTree) : Prop where
  workingDirectory_eq : after.workingDirectory = before.workingDirectory
  directory : ∀ place, before.get? place = some .directory → after.get? place = some .directory

theorem KeepsDirectories.refl (tree : FileTree) : KeepsDirectories tree tree :=
  ⟨rfl, fun _ => id⟩

theorem KeepsDirectories.trans {between : FileTree} (first : KeepsDirectories before between)
    (second : KeepsDirectories between after) : KeepsDirectories before after where
  workingDirectory_eq := second.workingDirectory_eq.trans first.workingDirectory_eq
  directory place hplace := second.directory place (first.directory place hplace)

theorem KeepsDirectories.origin_eq (h : KeepsDirectories before after) (path : String) :
    after.origin path = before.origin path := by
  rw [origin, origin, h.workingDirectory_eq]

/-- A walk leads through directories only. -/
theorem KeepsDirectories.enter (h : KeepsDirectories before after)
    (henter : before.enter start names = .ok place) : after.enter start names = .ok place := by
  induction names generalizing start with
  | nil => exact henter
  | cons name rest ih =>
    obtain ⟨next, hinside, hnext, hrest⟩ := enter_cons_eq_ok_iff.1 henter
    exact enter_cons_eq_ok_iff.2 ⟨next, hinside, h.directory next hnext, ih hrest⟩

/-- A file that is put where no directory stands takes the place of none. -/
theorem keepsDirectories_put (hfile : tree.get? place ≠ some .directory) :
    KeepsDirectories tree (tree.put place entry) where
  workingDirectory_eq := rfl
  directory other hother := by
    have hne : other ≠ place := by
      rintro rfl
      exact hfile hother
    rwa [get?_put_of_ne hne]

/-- A path that is no longer than allowed is approached through its directories. -/
theorem approach_eq_ok_iff {directory : List String} {name : String} :
    tree.approach path = .ok (directory, name) ↔
      path.toList.contains '\x00' = false ∧ path.utf8ByteSize ≤ maxPathSize ∧ path ≠ "" ∧
        tree.enter (tree.origin path) (Path.parts path).dropLast = .ok directory ∧
        (Path.parts path).getLast?.getD "." = name := by
  unfold approach
  -- The path is refused for each of the three reasons before it is followed.
  by_cases hclean : path.toList.contains '\x00'
  · rw [if_pos hclean, hclean]
    simp
  by_cases hlong : maxPathSize < path.utf8ByteSize
  · rw [if_neg hclean, if_pos hlong]
    simp [Nat.not_le.2 hlong]
  by_cases hempty : path = ""
  · rw [if_neg hclean, if_neg hlong, if_pos hempty]
    simp [hempty]
  rw [if_neg hclean, if_neg hlong, if_neg hempty, bind_eq_ok_iff, eq_false_of_ne_true hclean]
  constructor
  · rintro ⟨reached, henter, hresult⟩
    obtain ⟨rfl, hname⟩ := Prod.mk.inj (Except.ok.inj hresult)
    exact ⟨rfl, Nat.not_lt.1 hlong, hempty, henter, hname⟩
  · rintro ⟨-, -, -, henter, rfl⟩
    exact ⟨directory, henter, rfl⟩

theorem KeepsDirectories.approach {directory : List String} {name : String}
    (h : KeepsDirectories before after)
    (happroach : before.approach path = .ok (directory, name)) :
    after.approach path = .ok (directory, name) := by
  rw [approach_eq_ok_iff] at happroach ⊢
  obtain ⟨hclean, hshort, hsome, henter, hname⟩ := happroach
  rw [h.origin_eq path]
  exact ⟨hclean, hshort, hsome, h.enter henter, hname⟩

/-- What is found at the end of a path is what stands at a place. -/
theorem exists_approach_of_locate {entry : Option Entry}
    (h : tree.locate path = .ok (place, entry)) :
    ∃ directory name, tree.approach path = .ok (directory, name) ∧
      inside directory name = .ok place ∧ tree.get? place = entry := by
  obtain ⟨⟨directory, name⟩, happroach, h⟩ := bind_eq_ok_iff.1 h
  obtain ⟨reached, hinside, h⟩ := bind_eq_ok_iff.1 h
  dsimp only at hinside h
  refine ⟨directory, name, happroach, ?_⟩
  split at h
  · split at h
    · obtain ⟨rfl, rfl⟩ := Prod.mk.inj (Except.ok.inj h)
      exact ⟨hinside, rfl⟩
    · cases h
    · cases h
  · obtain ⟨rfl, rfl⟩ := Prod.mk.inj (Except.ok.inj h)
    exact ⟨hinside, rfl⟩

/-- The place that can be written, and the way there. -/
theorem writable_eq_ok (h : tree.writable path = .ok place) :
    ∃ directory name, tree.approach path = .ok (directory, name) ∧
      inside directory name = .ok place ∧ tree.get? place ≠ some .directory ∧
      (Path.hasTrailingSlash path || name = "." || name = "..") = false := by
  obtain ⟨⟨found, entry⟩, hlocate, h⟩ := bind_eq_ok_iff.1 h
  obtain ⟨⟨directory, name⟩, happroach, hlocate⟩ := bind_eq_ok_iff.1 hlocate
  obtain ⟨reached, hinside, hlocate⟩ := bind_eq_ok_iff.1 hlocate
  dsimp only at hinside hlocate h
  -- What is there cannot be written when it is a directory.
  have hfile : entry ≠ some .directory := by
    rintro rfl
    simp at h
  split at hlocate
  · -- A path that ends in a slash or in dots leads to a directory or to nothing.
    split at hlocate
    · next hdirectory =>
      obtain ⟨-, rfl⟩ := Prod.mk.inj (Except.ok.inj hlocate)
      exact absurd hdirectory hfile
    · cases hlocate
    · cases hlocate
  · next hplain =>
    obtain ⟨rfl, rfl⟩ := Prod.mk.inj (Except.ok.inj hlocate)
    have hplace : reached = place := by
      split at h
      · cases h
      · next hpair => exact (Prod.mk.inj hpair).1.trans (Except.ok.inj h)
    exact ⟨directory, name, happroach, hplace ▸ hinside, hplace ▸ hfile,
      eq_false_of_ne_true hplain⟩

/-- A file that is put where a path leads is found by that path. -/
theorem locate_put (h : tree.writable path = .ok place) :
    (tree.put place entry).locate path = .ok (place, some entry) := by
  obtain ⟨directory, name, happroach, hinside, hfile, hplain⟩ := writable_eq_ok h
  rw [locate, (keepsDirectories_put hfile).approach happroach, ok_bind]
  dsimp only
  rw [hinside, ok_bind, get?_put_self hfile, hplain]
  rfl

/-- The archive of a temporary file is put at its target as it is, with that file deleted. -/
theorem placeArchive_eq_ok {temporary target : String} {after : FileTree}
    (h : tree.placeArchive temporary target = (.ok (), after)) :
    ∃ file members place, tree.packed? temporary = some (file, members) ∧
      (tree.discardTemporary temporary).writable target = .ok place ∧
      after = (tree.discardTemporary temporary).put place (.archive members) := by
  unfold placeArchive at h
  dsimp only at h
  split at h
  · cases (Prod.mk.inj h).1
  · next file members hpacked =>
    split at h
    · next place hplace => exact ⟨file, members, place, hpacked, hplace, (Prod.mk.inj h).2.symm⟩
    · cases (Prod.mk.inj h).1

theorem readArchive_put {target : String} {members : List ArchiveMember}
    (h : tree.writable target = .ok place) :
    (tree.put place (.archive members)).readArchive target = .ok members := by
  rw [readArchive, locate_put h]

end SchemaMigration.FileTree
