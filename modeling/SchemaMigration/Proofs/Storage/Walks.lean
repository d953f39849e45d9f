import Mathlib.Data.List.Induction
import SchemaMigration.Proofs.Storage.TemporaryFile

/-!
# `SchemaMigration.Proofs.Storage.Walks`: where a path to a directory leads

A path leads to a directory when the names on it do, one after the other, through directories
only (`walk`, `locate_directory_iff`). The place does not depend on what stands there, so in two
trees with one working directory in which a path leads to directories it leads to the same place
(`walk_inj`).

A path that goes back up by `..` may lead to a directory in one tree and to nothing in another
one that has the directory too, for a name on the way may be missing. Without `..` all names on
the way are those of the place (`enter_of_rooted`).
-/

set_option autoImplicit false

namespace SchemaMigration

/-- A path that can be walked, whatever the tree is: it is not empty, not too long, and without a
null character. -/
def Path.Allowed (path : String) : Prop :=
  path.toList.contains '\x00' = false ∧ path.utf8ByteSize ≤ FileTree.maxPathSize ∧ path ≠ ""

/-- A path into a directory starts where the path of the directory does. -/
theorem Path.isAbsolute_join {directory name : String} (hslash : '/' ∉ name.toList) :
    isAbsolute (join directory name) = isAbsolute directory := by
  have hrelative := isAbsolute_of_not_mem hslash
  rw [join, hrelative, if_neg Bool.false_ne_true]
  by_cases hempty : directory = ""
  · subst hempty
    rw [if_pos (by simp), String.empty_append, hrelative]
    rfl
  -- The first character is that of the directory, whether or not a slash comes behind it.
  have hsome : directory.toList ≠ [] := fun h => hempty (String.toList_eq_nil_iff.1 h)
  obtain ⟨c, rest, hchars⟩ := List.exists_cons_of_ne_nil hsome
  split <;> simp [isAbsolute, hchars]

namespace FileTree

/-- Where the names on a path lead from the directory that the path starts in. -/
def walk (tree : FileTree) (path : String) : Except String (List String) :=
  tree.enter (tree.origin path) (Path.parts path)

open SchemaMigration.Outcome

variable {tree before after : FileTree} {start place directory : List String}
  {names : List String} {path : String}

/-! ### Names one after the other -/

theorem enter_append {more : List String} : tree.enter start (names ++ more) = .ok place ↔
    ∃ middle, tree.enter start names = .ok middle ∧ tree.enter middle more = .ok place := by
  induction names generalizing start with
  | nil => simp [enter]
  | cons name rest ih =>
    rw [List.cons_append, enter_cons_eq_ok_iff]
    simp only [enter_cons_eq_ok_iff, ih]
    constructor
    · rintro ⟨next, hinside, hnext, middle, hrest, hmore⟩
      exact ⟨middle, ⟨next, hinside, hnext, hrest⟩, hmore⟩
    · rintro ⟨middle, ⟨next, hinside, hnext, hrest⟩, hmore⟩
      exact ⟨next, hinside, hnext, middle, hrest, hmore⟩

/-- A walk that starts at a directory ends at one. -/
theorem get?_of_enter (hstart : tree.get? start = some .directory)
    (h : tree.enter start names = .ok place) : tree.get? place = some .directory := by
  induction names generalizing start with
  | nil =>
    obtain rfl := Except.ok.inj h
    exact hstart
  | cons name rest ih =>
    obtain ⟨next, -, hnext, hrest⟩ := enter_cons_eq_ok_iff.1 h
    exact ih hnext hrest

/-- A name that is none of the dots leads to the place of that name. -/
theorem eq_of_inside {name : String} (hplain : (name = "." || name = "..") = false)
    (h : inside directory name = .ok place) : place = directory ++ [name] := by
  simp only [Bool.or_eq_false_iff, decide_eq_false_iff_not] at hplain
  rw [inside, if_neg hplain.1, if_neg hplain.2] at h
  split at h
  · cases h
  · exact (Except.ok.inj h).symm

/-- Where a walk ends is decided by the names alone. -/
theorem enter_inj {other : List String} (h : before.enter start names = .ok place)
    (h' : after.enter start names = .ok other) : place = other := by
  induction names generalizing start with
  | nil => exact (Except.ok.inj h).symm.trans (Except.ok.inj h')
  | cons name rest ih =>
    obtain ⟨next, hinside, -, hrest⟩ := enter_cons_eq_ok_iff.1 h
    obtain ⟨next', hinside', -, hrest'⟩ := enter_cons_eq_ok_iff.1 h'
    obtain rfl := Except.ok.inj (hinside.symm.trans hinside')
    exact ih hrest hrest'

/-- Without `..` a walk goes down only. -/
theorem prefix_of_enter (hdown : ".." ∉ names) (h : tree.enter start names = .ok place) :
    start <+: place := by
  induction names generalizing start with
  | nil =>
    obtain rfl := Except.ok.inj h
    exact List.prefix_refl _
  | cons name rest ih =>
    rw [List.mem_cons, not_or] at hdown
    obtain ⟨next, hinside, -, hrest⟩ := enter_cons_eq_ok_iff.1 h
    refine List.IsPrefix.trans ?_ (ih hdown.2 hrest)
    -- Each name but `..` stays or goes further down.
    unfold inside at hinside
    rw [if_neg (Ne.symm hdown.1)] at hinside
    split at hinside
    · obtain rfl := Except.ok.inj hinside
      exact List.prefix_refl _
    · split at hinside
      · cases hinside
      · obtain rfl := Except.ok.inj hinside
        exact List.prefix_append _ _

/-! ### Paths -/

/-- Names lead from a directory to a directory when those before the last one do, and the last
one does from there. Without any name that is the directory itself. -/
theorem enter_dropLast_iff (hstart : tree.get? start = some .directory) :
    tree.enter start names = .ok place ↔
      ∃ directory, tree.enter start names.dropLast = .ok directory ∧
        inside directory (names.getLast?.getD ".") = .ok place ∧
        tree.get? place = some .directory := by
  -- Without names the place is the start, which is where `.` leads too.
  rcases List.eq_nil_or_concat' names with rfl | ⟨front, last, rfl⟩
  · constructor
    · intro h
      obtain rfl := Except.ok.inj h
      exact ⟨start, rfl, rfl, hstart⟩
    · rintro ⟨directory, henter, hinside, -⟩
      obtain rfl := Except.ok.inj henter
      exact hinside
  · rw [enter_append, List.dropLast_concat, List.getLast?_concat, Option.getD_some]
    refine exists_congr fun directory => and_congr_right fun _ => ?_
    rw [enter_cons_eq_ok_iff]
    constructor
    · rintro ⟨next, hinside, hnext, hend⟩
      obtain rfl := Except.ok.inj hend
      exact ⟨hinside, hnext⟩
    · exact fun ⟨hinside, hplace⟩ => ⟨place, hinside, hplace, rfl⟩

/-- A path leads to a directory when its names do. -/
theorem locate_directory_iff : tree.locate path = .ok (place, some .directory) ↔
    Path.Allowed path ∧ tree.walk path = .ok place := by
  rw [walk, enter_dropLast_iff (tree.get?_origin path)]
  constructor
  · intro h
    obtain ⟨directory, name, happroach, hinside, hplace⟩ := exists_approach_of_locate h
    obtain ⟨hclean, hshort, hsome, henter, rfl⟩ := approach_eq_ok_iff.1 happroach
    exact ⟨⟨hclean, hshort, hsome⟩, directory, henter, hinside, hplace⟩
  · rintro ⟨⟨hclean, hshort, hsome⟩, directory, henter, hinside, hplace⟩
    have happroach : tree.approach path =
        .ok (directory, (Path.parts path).getLast?.getD ".") :=
      approach_eq_ok_iff.2 ⟨hclean, hshort, hsome, henter, rfl⟩
    rw [locate, happroach, ok_bind]
    dsimp only
    rw [hinside, ok_bind, hplace]
    -- A path with a slash at its end may lead to a directory, and so may any other.
    split <;> rfl

/-- A path leads to the same place as long as the directories on it are there. -/
theorem KeepsDirectories.walk (h : KeepsDirectories before after)
    (hwalk : before.walk path = .ok place) : after.walk path = .ok place := by
  rw [FileTree.walk, h.origin_eq]
  exact h.enter hwalk

/-- Where a path leads is decided by its names and the working directory. -/
theorem walk_inj {other : List String} (hsame : after.workingDirectory = before.workingDirectory)
    (h : before.walk path = .ok place) (h' : after.walk path = .ok other) : place = other := by
  rw [walk, origin, hsame] at h'
  exact enter_inj h h'

/-- A path leads to a directory. -/
theorem get?_of_walk (h : tree.walk path = .ok place) : tree.get? place = some .directory :=
  get?_of_enter (tree.get?_origin path) h

/-- What stood at the end of a path is what a path leads to, as long as it is there. -/
theorem KeepsDirectories.place_eq {one other : Option Entry} {place' : List String}
    (h : KeepsDirectories before after) (hbefore : before.locate path = .ok (place, one))
    (hafter : after.locate path = .ok (place', other)) : place' = place := by
  obtain ⟨directory, name, happroach, hinside, -⟩ := exists_approach_of_locate hbefore
  obtain ⟨directory', name', happroach', hinside', -⟩ := exists_approach_of_locate hafter
  obtain ⟨rfl, rfl⟩ :=
    Prod.mk.inj (Except.ok.inj ((h.approach happroach).symm.trans happroach'))
  exact Except.ok.inj (hinside'.symm.trans hinside)

/-! ### Files in a directory -/

/-- The file that a path into a directory leads to. -/
theorem place_of_writable_join {name : String} {file : List String}
    (hdirectory : tree.walk path = .ok place) (hsome : name ≠ "")
    (hslash : '/' ∉ name.toList) (h : tree.writable (Path.join path name) = .ok file) :
    file = place ++ [name] ∧ tree.get? file ≠ some .directory := by
  obtain ⟨directory, last, happroach, hinside, hfile, hplain⟩ := writable_eq_ok h
  obtain ⟨-, -, -, henter, hlast⟩ := approach_eq_ok_iff.1 happroach
  rw [origin, Path.isAbsolute_join hslash, Path.parts_join hsome hslash,
    List.dropLast_concat] at henter
  rw [Path.parts_join hsome hslash, List.getLast?_concat, Option.getD_some] at hlast
  obtain rfl := Except.ok.inj (henter.symm.trans hdirectory)
  obtain rfl := hlast
  -- The name is none of the dots, since they are refused for files.
  rw [Bool.or_assoc, Bool.or_eq_false_iff] at hplain
  exact ⟨eq_of_inside hplain.2 hinside, hfile⟩

/-! ### Trees without loose ends -/

/-- What stands in a tree stands in a directory of the tree. -/
def Rooted (tree : FileTree) : Prop :=
  ∀ place name, tree.get? (place ++ [name]) ≠ none → tree.get? place = some .directory

/-- It is enough to look at the entries of the tree. -/
theorem rooted_of_entries
    (h : ∀ entry ∈ tree.entries, tree.get? entry.1.dropLast = some .directory) : tree.Rooted := by
  intro place name hsome
  rcases prefix_or_mem_of_get? hsome with hlead | ⟨entry, hentry⟩
  · exact get?_of_isPrefix ((List.prefix_append place [name]).trans hlead)
  · have hdirectory := h _ hentry
    rwa [List.dropLast_concat] at hdirectory

/-- Something that is put in a directory is no loose end. -/
theorem Rooted.put {name : String} {entry : Entry} (h : tree.Rooted)
    (hplace : tree.get? place = some .directory)
    (hfile : tree.get? (place ++ [name]) ≠ some .directory) :
    (tree.put (place ++ [name]) entry).Rooted := by
  have hkeeps : tree.KeepsDirectories (tree.put (place ++ [name]) entry) :=
    keepsDirectories_put hfile
  intro front last hsome
  by_cases hother : front ++ [last] = place ++ [name]
  · obtain ⟨rfl, -⟩ := List.append_inj' hother rfl
    exact hkeeps.directory front hplace
  · rw [get?_put_of_ne hother] at hsome
    exact hkeeps.directory front (h front last hsome)

theorem Rooted.makeDirectory {made : FileTree} (h : tree.Rooted)
    (hmade : tree.makeDirectory path = .ok made) : made.Rooted := by
  obtain ⟨directory, name, place, happroach, hinside, hplain, hnone, rfl⟩ :=
    exists_put_of_makeDirectory hmade
  obtain ⟨-, -, -, henter, -⟩ := approach_eq_ok_iff.1 happroach
  obtain rfl := eq_of_inside hplain hinside
  exact h.put (get?_of_enter (tree.get?_origin path) henter) (by simp [hnone])

/-- Directories are made without loose ends, also when not all of them could be. -/
theorem Rooted.makeDirectories (h : tree.Rooted) (path : String) :
    (tree.makeDirectories path).2.Rooted :=
  makeDirectories_induct (r := fun before after => before.Rooted → after.Rooted)
    (fun _ => id) (fun _ _ _ first second => second ∘ first)
    (fun _ _ _ hmade hrooted => hrooted.makeDirectory hmade) tree path h

/-- What a place lies in is a directory. -/
theorem Rooted.get?_of_append (h : tree.Rooted) {more : List String} (hmore : more ≠ [])
    (hsome : tree.get? (place ++ more) ≠ none) : tree.get? place = some .directory := by
  induction more using List.reverseRecOn with
  | nil => exact absurd rfl hmore
  | append_singleton front last ih =>
    rw [← List.append_assoc] at hsome
    have hfront := h _ last hsome
    by_cases hnil : front = []
    · rwa [hnil, List.append_nil] at hfront
    · refine ih hnil ?_
      rw [hfront]
      exact Option.some_ne_none _

/-- Without `..` a path leads to a directory when the directory is there. -/
theorem enter_of_rooted (h : before.Rooted) (hdown : ".." ∉ names)
    (henter : after.enter start names = .ok place)
    (hplace : before.get? place = some .directory) : before.enter start names = .ok place := by
  induction names generalizing start with
  | nil => exact henter
  | cons name rest ih =>
    obtain ⟨next, hinside, -, hrest⟩ := enter_cons_eq_ok_iff.1 henter
    rw [List.mem_cons, not_or] at hdown
    refine enter_cons_eq_ok_iff.2 ⟨next, hinside, ?_, ih hdown.2 hrest⟩
    -- The place lies in the first directory, or is it.
    obtain ⟨more, rfl⟩ := prefix_of_enter hdown.2 hrest
    by_cases hmore : more = []
    · rwa [hmore, List.append_nil] at hplace
    · refine h.get?_of_append hmore ?_
      rw [hplace]
      exact Option.some_ne_none _

end FileTree

end SchemaMigration
