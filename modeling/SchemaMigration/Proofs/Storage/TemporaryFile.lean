import Mathlib.Data.List.Nodup
import Mathlib.Data.List.Perm.Subperm
import SchemaMigration.Proofs.Storage.Placement
import SchemaMigration.Proofs.Text.ByteOrder

/-!
# `SchemaMigration.Proofs.Storage.TemporaryFile`: what an archive does to a file tree

Making the directory of an archive adds directories where nothing stood
(`addsDirectories_makeDirectories`). The temporary file then gets a name that nothing in
the tree has (`hasName_temporaryName`), so it takes the place of nothing (`AddsTemporary`). It
stays in that place while entries are added to the archive in it (`AddsTemporary.addMember`), and
deleting it gives back the tree from before.
-/

set_option autoImplicit false

namespace SchemaMigration

namespace Path

/-- A text without slashes has no parts but itself. -/
theorem splitSlashes_of_not_mem {name : List Char} (h : '/' ∉ name) (part : List Char) :
    splitSlashes part name = [String.ofList (part.reverse ++ name)] := by
  induction name generalizing part with
  | nil => simp [splitSlashes]
  | cons c name ih =>
    rw [List.mem_cons, not_or] at h
    rw [splitSlashes, ih h.2]
    · simp
    · exact fun hc => h.1 hc.symm

/-- The parts on either side of a slash. -/
theorem splitSlashes_append (front back part : List Char) :
    splitSlashes part (front ++ '/' :: back) =
      splitSlashes part front ++ splitSlashes [] back := by
  induction front generalizing part with
  | nil => rfl
  | cons c front ih =>
    by_cases hc : c = '/'
    · subst hc
      simp [splitSlashes, ih]
    · rw [List.cons_append, splitSlashes, splitSlashes, ih]
      · exact hc
      · exact hc

variable {directory name : String}

/-- The parts of a path behind a slash, when they are one name. -/
theorem parts_of_slash {path : String} (front : List Char) (hsome : name ≠ "")
    (hslash : '/' ∉ name.toList) (hpath : path.toList = front ++ '/' :: name.toList) :
    parts path = parts (String.ofList front) ++ [name] := by
  have hname : splitSlashes [] name.toList = [name] := by
    simp [splitSlashes_of_not_mem hslash]
  rw [parts, hpath, splitSlashes_append, hname, List.filter_append,
    List.filter_cons_of_pos (by simpa using hsome), parts, String.toList_ofList]
  rfl

/-- A name does not start at the root. -/
theorem isAbsolute_of_not_mem (hslash : '/' ∉ name.toList) : isAbsolute name = false := by
  unfold isAbsolute
  cases hchars : name.toList with
  | nil => rfl
  | cons c rest =>
    have hc : c ≠ '/' := fun hc => hslash (by simp [hchars, hc])
    simpa using hc

/-- The parts of a path into a directory are those of the directory and the name of the file. -/
theorem parts_join (hsome : name ≠ "") (hslash : '/' ∉ name.toList) :
    parts (join directory name) = parts directory ++ [name] := by
  rw [join, if_neg (by simp [isAbsolute_of_not_mem hslash])]
  split
  · next hplain =>
    rw [Bool.or_eq_true, decide_eq_true_eq] at hplain
    rcases hplain with rfl | htrailing
    · have hname : splitSlashes [] name.toList = [name] := by
        simp [splitSlashes_of_not_mem hslash]
      simp [parts, hname, hsome, splitSlashes]
    · -- The slash that ends the directory stands before the name, and behind it nothing else.
      have hlast : directory.toList.getLast? = some '/' := by
        simpa [hasTrailingSlash] using htrailing
      obtain ⟨front, hfront⟩ := List.getLast?_eq_some_iff.1 hlast
      have hdirectory : parts directory = parts (String.ofList front) := by
        rw [parts, hfront, splitSlashes_append, List.filter_append, parts, String.toList_ofList]
        simp [splitSlashes]
      rw [hdirectory]
      refine parts_of_slash front hsome hslash ?_
      rw [String.toList_append, hfront, List.append_assoc, List.singleton_append]
  · have hpath : (directory ++ "/" ++ name).toList = directory.toList ++ '/' :: name.toList := by
      simp
    have hparts := parts_of_slash directory.toList hsome hslash hpath
    rwa [String.ofList_toList] at hparts

/-- The last part of a path into a directory is the name of the file. -/
theorem getLast?_parts_join (hsome : name ≠ "") (hslash : '/' ∉ name.toList) :
    (parts (join directory name)).getLast? = some name := by
  rw [parts_join hsome hslash, List.getLast?_concat]

end Path

namespace FileTree

open SchemaMigration.Outcome

variable {tree made : FileTree} {place : List String} {path : String}

/-! ### Directories -/

/-- Nothing has changed but that there are directories where nothing stood. -/
structure AddsDirectories (before after : FileTree) : Prop where
  workingDirectory_eq : after.workingDirectory = before.workingDirectory
  place : ∀ place, after.get? place = before.get? place ∨
    before.get? place = none ∧ after.get? place = some .directory

theorem AddsDirectories.refl (tree : FileTree) : AddsDirectories tree tree :=
  ⟨rfl, fun _ => .inl rfl⟩

theorem AddsDirectories.trans {before between after : FileTree}
    (first : AddsDirectories before between) (second : AddsDirectories between after) :
    AddsDirectories before after where
  workingDirectory_eq := second.workingDirectory_eq.trans first.workingDirectory_eq
  place place := by
    rcases second.place place with hsame | ⟨hnone, hdirectory⟩
    · rw [hsame]
      exact first.place place
    · rcases first.place place with hsame | ⟨-, hmade⟩
      · exact .inr ⟨hsame ▸ hnone, hdirectory⟩
      · rw [hmade] at hnone
        cases hnone

theorem AddsDirectories.keepsDirectories {before after : FileTree}
    (h : AddsDirectories before after) : KeepsDirectories before after where
  workingDirectory_eq := h.workingDirectory_eq
  directory place hplace := by
    rcases h.place place with hsame | ⟨hnone, -⟩
    · rwa [hsame]
    · rw [hnone] at hplace
      cases hplace

/-- Where a file can be written there is what there was. -/
theorem AddsDirectories.get?_of_writable {before after : FileTree}
    (h : AddsDirectories before after) (hplace : after.writable path = .ok place) :
    after.get? place = before.get? place := by
  obtain ⟨-, -, -, -, hfile, -⟩ := writable_eq_ok hplace
  rcases h.place place with hsame | ⟨-, hdirectory⟩
  · exact hsame
  · exact absurd hdirectory hfile

/-- A directory is made where a path leads and nothing stood. -/
theorem exists_put_of_makeDirectory (h : tree.makeDirectory path = .ok made) :
    ∃ directory name place, tree.approach path = .ok (directory, name) ∧
      inside directory name = .ok place ∧ (name = "." || name = "..") = false ∧
      tree.get? place = none ∧ made = tree.put place .directory := by
  obtain ⟨⟨directory, name⟩, happroach, h⟩ := bind_eq_ok_iff.1 h
  dsimp only at h
  split at h
  · cases h
  next hplain =>
  obtain ⟨place, hinside, h⟩ := bind_eq_ok_iff.1 h
  split at h
  · cases h
  · next hfree =>
    exact ⟨directory, name, place, happroach, hinside, eq_false_of_ne_true hplain,
      by simpa using hfree, (Except.ok.inj h).symm⟩

/-- Where nothing stands there is no directory. -/
theorem ne_directory_of_get?_eq_none (h : tree.get? place = none) :
    tree.get? place ≠ some .directory := by
  rw [h]
  nofun

theorem addsDirectories_makeDirectory (h : tree.makeDirectory path = .ok made) :
    AddsDirectories tree made := by
  obtain ⟨-, -, place, -, -, -, hnone, rfl⟩ := exists_put_of_makeDirectory h
  refine ⟨rfl, fun other => ?_⟩
  by_cases hother : other = place
  · subst hother
    exact .inr ⟨hnone, get?_put_self (ne_directory_of_get?_eq_none hnone)⟩
  · exact .inl (get?_put_of_ne hother)

/-- What holds of a tree and the one with a directory more holds of the tree and the one with all
the directories of a path, as far as they could be made. -/
theorem makeDirectories_induct {r : FileTree → FileTree → Prop} (refl : ∀ tree, r tree tree)
    (trans : ∀ before between after, r before between → r between after → r before after)
    (step : ∀ tree path made, tree.makeDirectory path = .ok made → r tree made)
    (tree : FileTree) (path : String) : r tree (tree.makeDirectories path).2 := by
  have hkeep (tree : FileTree) (path : String) : r tree (tree.keepDirectory path).2 := by
    unfold keepDirectory
    split
    · next hmade => exact step _ _ _ hmade
    · split
      · exact refl tree
      · exact refl tree
  have hinnermost (paths : List String) : r tree (tree.makeInnermost paths).2 := by
    induction paths with
    | nil => exact refl tree
    | cons path above ih =>
      have hself := hkeep tree path
      rw [makeInnermost]
      split
      · next hmade => rwa [hmade] at hself
      · split
        · -- The directories above are made first, and then this one.
          split
          · next hmade =>
            rw [hmade] at ih
            exact trans _ _ _ ih (hkeep _ path)
          · next hmade => rwa [hmade] at ih
        · exact refl tree
  unfold makeDirectories
  split
  · exact refl tree
  · exact hinnermost _

theorem addsDirectories_makeDirectories (tree : FileTree) (path : String) :
    AddsDirectories tree (tree.makeDirectories path).2 :=
  makeDirectories_induct .refl (fun _ _ _ => .trans)
    (fun _ _ _ => addsDirectories_makeDirectory) tree path

/-! ### The temporary file -/

/-- The name of the temporary file with a number. -/
theorem toList_numbered (k : Nat) :
    (temporaryStem ++ Text.padded 6 k).toList =
      temporaryStem.toList ++ (Text.padded 6 k).toList :=
  String.toList_append

/-- Different numbers are in different names. -/
theorem numbered_inj {j k : Nat}
    (h : temporaryStem ++ Text.padded 6 j = temporaryStem ++ Text.padded 6 k) : j = k := by
  have hdigits : (Text.padded 6 j).toList = (Text.padded 6 k).toList := by
    have := congrArg String.toList h
    rw [toList_numbered, toList_numbered] at this
    exact List.append_cancel_left this
  rw [← Text.digitsValue_padded 6 j, hdigits, Text.digitsValue_padded]

/-- Of more numbers than there are places, one is in no name of the tree. -/
theorem exists_free_number (tree : FileTree) :
    ∃ k ∈ List.range (tree.places.length + 1),
      tree.hasName (temporaryStem ++ Text.padded 6 k) = false := by
  -- Were all of them taken, the tree would have more names than places.
  by_contra! hall
  have htaken : (List.range (tree.places.length + 1)).map
      (fun k => temporaryStem ++ Text.padded 6 k) ⊆ tree.places.filterMap List.getLast? := by
    intro name hname
    obtain ⟨k, hk, rfl⟩ := List.mem_map.1 hname
    obtain ⟨p, hp, hlast⟩ := List.any_eq_true.1 (eq_true_of_ne_false (hall k hk))
    exact List.mem_filterMap.2 ⟨p, hp, beq_iff_eq.1 hlast⟩
  have hnodup : ((List.range (tree.places.length + 1)).map
      fun k => temporaryStem ++ Text.padded 6 k).Nodup :=
    List.Nodup.map (fun _ _ => numbered_inj) List.nodup_range
  have hlength := (List.subperm_of_subset hnodup htaken).length_le
  rw [List.length_map, List.length_range] at hlength
  have := List.length_filterMap_le (List.getLast? (α := String)) tree.places
  omega

/-- Nothing in the tree has the name of the temporary file. -/
theorem hasName_temporaryName (tree : FileTree) : tree.hasName tree.temporaryName = false := by
  obtain ⟨k, hk, hfree⟩ := exists_free_number tree
  unfold temporaryName
  dsimp only
  cases hfound : (List.range (tree.places.length + 1)).find?
      fun k => !tree.hasName (temporaryStem ++ Text.padded 6 k) with
  | none => simpa [hfree] using List.find?_eq_none.1 hfound k hk
  | some found => simpa using List.find?_some hfound

/-- The name of the temporary file is a name. -/
theorem temporaryName_ne_empty (tree : FileTree) : tree.temporaryName ≠ "" := by
  intro h
  have hlist := congrArg String.toList h
  rw [temporaryName, toList_numbered] at hlist
  cases hlist

theorem not_mem_temporaryName (tree : FileTree) : '/' ∉ tree.temporaryName.toList := by
  rw [temporaryName, toList_numbered, List.mem_append]
  rintro (hstem | hdigit)
  · exact absurd hstem (by decide)
  · exact absurd (Text.isDigit_of_mem_padded hdigit) (by decide)

/-- A file that can be written stands under the last name of its path. -/
theorem getLast?_of_writable (h : tree.writable path = .ok place) :
    place.getLast? = (Path.parts path).getLast? := by
  obtain ⟨directory, name, happroach, hinside, -, hplain⟩ := writable_eq_ok h
  simp only [Bool.or_eq_false_iff, decide_eq_false_iff_not] at hplain
  obtain ⟨⟨-, hdot⟩, hdots⟩ := hplain
  -- A path without parts would lead to `.`, which is no file.
  have hname : (Path.parts path).getLast? = some name := by
    obtain ⟨-, -, -, -, hlast⟩ := approach_eq_ok_iff.1 happroach
    cases hfound : (Path.parts path).getLast? with
    | none => exact absurd (by rw [← hlast, hfound]; rfl) hdot
    | some found => rw [← hlast, hfound, Option.getD_some]
  rw [inside, if_neg hdot, if_neg hdots] at hinside
  split at hinside
  · cases hinside
  · obtain rfl := Except.ok.inj hinside
    rw [hname, List.getLast?_concat]

/-- An entry of a tree stands at a place. -/
theorem mem_places_of_mem_entries {e : List String × Entry} (h : e ∈ tree.entries) :
    e.1 ∈ tree.places :=
  List.mem_append_right _ (List.mem_map_of_mem h)

/-- What is put somewhere replaces what was put there before. -/
theorem put_put (tree : FileTree) (place : List String) (entry new : Entry) :
    (tree.put place entry).put place new = tree.put place new := by
  simp [put, List.filter_append]

/-- A path leads to a place where a file can be made, and which no entry of the tree has. -/
def Vacant (tree : FileTree) (path : String) (place : List String) : Prop :=
  tree.writable path = .ok place ∧ ∀ e ∈ tree.entries, e.1 ≠ place

/-- An entry is added behind those of an archive. -/
theorem addEntry_eq_ok {temporary name text : String} {after : FileTree}
    (h : tree.addEntry temporary name text = (.ok (), after)) :
    ∃ place members, tree.packed? temporary = some (place, members) ∧
      after = tree.addMember temporary (.ofEntry name text) := by
  unfold addEntry at h
  split at h
  · next place members hpacked =>
    split at h
    · cases (Prod.mk.inj h).1
    · exact ⟨place, members, hpacked, (Prod.mk.inj h).2.symm⟩
  · cases (Prod.mk.inj h).1

/-- A file with an archive of these members in it has been added at a place that nothing else
has. -/
def AddsTemporary (before : FileTree) (temporary : String) (members : List ArchiveMember)
    (after : FileTree) : Prop :=
  ∃ place, before.Vacant temporary place ∧ after = before.put place (.unfinished members)

/-- Where there is no file, there is no archive in it. -/
theorem Vacant.packed?_eq {temporary : String} (h : tree.Vacant temporary place) :
    tree.packed? temporary = none := by
  obtain ⟨hwritable, hnew⟩ := h
  unfold packed?
  split
  · next found members hlocate =>
    -- An unfinished file would be an entry of the tree at its place.
    rw [writable, hlocate] at hwritable
    obtain rfl : found = place := Except.ok.inj hwritable
    obtain ⟨-, -, -, -, hentry⟩ := exists_approach_of_locate hlocate
    have hsome : tree.get? found ≠ none := by simp [hentry]
    rcases prefix_or_mem_of_get? hsome with hlead | ⟨entry, hmem⟩
    · rw [get?_of_isPrefix hlead] at hentry
      cases hentry
    · exact absurd rfl (hnew _ hmem)
  · rfl

/-- Deleting a file that is not there changes nothing. -/
theorem Vacant.discardTemporary_eq {temporary : String} (h : tree.Vacant temporary place) :
    tree.discardTemporary temporary = tree := by
  obtain ⟨hwritable, hnew⟩ := h
  have hkept : tree.entries.filter (fun e => e.1 != place) = tree.entries :=
    List.filter_eq_self.2 fun e he => bne_iff_ne.2 (hnew e he)
  rw [discardTemporary, hwritable]
  show tree.remove place = tree
  rw [remove, hkept]

/-- A temporary file stands under a name of its own. -/
theorem addsTemporary_of_openTemporary {directory temporary : String} {opened : FileTree}
    (h : tree.openTemporary directory = (.ok temporary, opened)) :
    tree.AddsTemporary temporary [] opened := by
  unfold openTemporary at h
  dsimp only at h
  split at h
  · next place hwritable =>
    obtain ⟨hpath, rfl⟩ := Prod.mk.inj h
    obtain rfl := Except.ok.inj hpath
    refine ⟨place, ⟨hwritable, fun e he heq => ?_⟩, rfl⟩
    -- What stood at the place would have the name that nothing has.
    have hlast : e.1.getLast? = some tree.temporaryName := by
      rw [heq, getLast?_of_writable hwritable, Path.getLast?_parts_join
        tree.temporaryName_ne_empty tree.not_mem_temporaryName]
    have htaken : tree.hasName tree.temporaryName = true :=
      List.any_eq_true.2 ⟨e.1, mem_places_of_mem_entries he, by simp [hlast]⟩
    rw [hasName_temporaryName] at htaken
    cases htaken
  · cases (Prod.mk.inj h).1

namespace AddsTemporary

variable {opened : FileTree} {temporary : String} {members : List ArchiveMember}

/-- The archive in a temporary file is found there. -/
theorem packed?_eq (h : tree.AddsTemporary temporary members opened) :
    ∃ place, opened.packed? temporary = some (place, members) ∧ tree.Vacant temporary place ∧
      opened = tree.put place (.unfinished members) := by
  obtain ⟨place, hvacant, rfl⟩ := h
  refine ⟨place, ?_, hvacant, rfl⟩
  rw [packed?, locate_put hvacant.1]

/-- A temporary file stays where it is when its archive has a member more. -/
theorem addMember (h : tree.AddsTemporary temporary members opened) (member : ArchiveMember) :
    tree.AddsTemporary temporary (members ++ [member]) (opened.addMember temporary member) := by
  obtain ⟨place, hpacked, hvacant, rfl⟩ := h.packed?_eq
  refine ⟨place, hvacant, ?_⟩
  rw [FileTree.addMember, hpacked]
  exact put_put tree place _ _

/-- An entry with a new name is added. -/
theorem addEntry_eq (h : tree.AddsTemporary temporary members opened) {name : String}
    (hnew : name ∉ members.map (·.name)) (text : String) :
    opened.addEntry temporary name text =
      (.ok (), opened.addMember temporary (.ofEntry name text)) := by
  obtain ⟨place, hpacked, -⟩ := h.packed?_eq
  have hfresh : (members.any fun member => member.name == name) = false := by
    rw [List.any_eq_false]
    intro member hmember hname
    exact hnew (beq_iff_eq.1 hname ▸ List.mem_map_of_mem hmember)
  rw [addEntry, hpacked]
  dsimp only
  rw [hfresh]
  rfl

/-- Deleting a temporary file gives back the tree from before. -/
theorem discardTemporary_eq (h : tree.AddsTemporary temporary members opened) :
    opened.discardTemporary temporary = tree := by
  obtain ⟨place, hvacant, rfl⟩ := h
  have hfound : (tree.put place (.unfinished members)).writable temporary = .ok place := by
    rw [writable, locate_put hvacant.1]
    rfl
  have hkept : tree.entries.filter (fun e => e.1 != place) = tree.entries :=
    List.filter_eq_self.2 fun e he => bne_iff_ne.2 (hvacant.2 e he)
  rw [discardTemporary, hfound]
  -- Putting the file there removed nothing, so taking it away leaves all other entries.
  show remove (tree.put place (.unfinished members)) place = tree
  rw [remove, put, hkept, List.filter_append, hkept, List.filter_cons_of_neg (by simp)]
  simp

/-- Under other names there is what there was. -/
theorem get?_of_ne (h : tree.AddsTemporary temporary members opened)
    (hname : place.getLast? ≠ (Path.parts temporary).getLast?) :
    opened.get? place = tree.get? place := by
  obtain ⟨aside, hvacant, rfl⟩ := h
  refine get?_put_of_ne ?_
  rintro rfl
  exact hname (getLast?_of_writable hvacant.1)

/-- The archive in a temporary file can be put where a file can be written without it. -/
theorem placeArchive_eq {target : String} (h : tree.AddsTemporary temporary members opened)
    (hplace : tree.writable target = .ok place) :
    opened.placeArchive temporary target = (.ok (), tree.put place (.archive members)) := by
  obtain ⟨aside, hpacked, -⟩ := h.packed?_eq
  rw [FileTree.placeArchive, hpacked, h.discardTemporary_eq]
  dsimp only
  rw [hplace]

/-- When it has been put somewhere, that is where a file can be written without it. -/
theorem eq_of_placeArchive {target : String} {after : FileTree}
    (h : tree.AddsTemporary temporary members opened)
    (hplaced : opened.placeArchive temporary target = (.ok (), after)) :
    ∃ place, tree.writable target = .ok place ∧ after = tree.put place (.archive members) := by
  obtain ⟨aside, hpacked, -⟩ := h.packed?_eq
  obtain ⟨file, found, place, hfound, hwritable, hafter⟩ := placeArchive_eq_ok hplaced
  rw [h.discardTemporary_eq] at hwritable hafter
  obtain ⟨-, rfl⟩ := Prod.mk.inj (Option.some.inj (hpacked.symm.trans hfound))
  exact ⟨place, hwritable, hafter⟩

end AddsTemporary

end FileTree

end SchemaMigration
