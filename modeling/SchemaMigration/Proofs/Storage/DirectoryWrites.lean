import SchemaMigration.Generation.Collection
import SchemaMigration.Proofs.Archive.WriterRun
import SchemaMigration.Proofs.Storage.Fallible
import SchemaMigration.Proofs.Storage.Walks

/-!
# `SchemaMigration.Proofs.Storage.DirectoryWrites`: files that are written to a directory

Writing a collection to a directory makes the directory, with those above it that are missing
(`AddsAlong`), and then one file after the other in it. Each step is taken apart by what it
leaves behind when it succeeds. The place of the directory is settled by the first step and
stays the same, for no file takes the place of a directory. So every file goes to the place that
its name has in the directory (`run_writeFiles`). The storage may fail at any of the steps, and a
file that fails is the only one that is not as it was (`run_writeFile_error`).
-/

set_option autoImplicit false

namespace SchemaMigration

open SchemaMigration.Outcome

namespace FileTree

variable {tree made before between after : FileTree} {place : List String} {path dir : String}
  {paths more : List String}

/-! ### Directories on the way -/

/-- Nothing has changed but that directories stand where some paths lead, and nothing stood
there. -/
structure AddsAlong (paths : List String) (before after : FileTree) : Prop where
  workingDirectory_eq : after.workingDirectory = before.workingDirectory
  place : ∀ place, after.get? place = before.get? place ∨
    before.get? place = none ∧ after.get? place = some .directory ∧
      ∃ path ∈ paths, after.locate path = .ok (place, some .directory)

theorem AddsAlong.addsDirectories (h : AddsAlong paths before after) :
    AddsDirectories before after where
  workingDirectory_eq := h.workingDirectory_eq
  place place := (h.place place).imp_right fun ⟨hnone, hdirectory, _⟩ => ⟨hnone, hdirectory⟩

theorem AddsAlong.refl (paths : List String) (tree : FileTree) : AddsAlong paths tree tree :=
  ⟨rfl, fun _ => .inl rfl⟩

theorem AddsAlong.mono (h : AddsAlong paths before after) (hsub : paths ⊆ more) :
    AddsAlong more before after where
  workingDirectory_eq := h.workingDirectory_eq
  place place := by
    refine (h.place place).imp_right fun ⟨hnone, hdirectory, path, hpath, hlocate⟩ => ?_
    exact ⟨hnone, hdirectory, path, hsub hpath, hlocate⟩

/-- A path leads to a directory when there are more of them. -/
theorem KeepsDirectories.locate (h : KeepsDirectories before after)
    (hlocate : before.locate path = .ok (place, some .directory)) :
    after.locate path = .ok (place, some .directory) := by
  obtain ⟨hallowed, hwalk⟩ := locate_directory_iff.1 hlocate
  exact locate_directory_iff.2 ⟨hallowed, h.walk hwalk⟩

theorem AddsAlong.trans (first : AddsAlong paths before between)
    (second : AddsAlong paths between after) : AddsAlong paths before after where
  workingDirectory_eq := second.workingDirectory_eq.trans first.workingDirectory_eq
  place place := by
    have hkeeps := second.addsDirectories.keepsDirectories
    rcases second.place place with hsame | ⟨hnone, hdirectory, hpath⟩
    · rw [hsame]
      refine (first.place place).imp_right fun ⟨hnone, hdirectory, path, hpath, hlocate⟩ => ?_
      exact ⟨hnone, hdirectory, path, hpath, hkeeps.locate hlocate⟩
    · rcases first.place place with hsame | ⟨-, hmade, -⟩
      · exact .inr ⟨hsame ▸ hnone, hdirectory, hpath⟩
      · rw [hmade] at hnone
        cases hnone

/-- A directory that is made stands where its path leads. -/
theorem makeDirectory_eq_ok (h : tree.makeDirectory path = .ok made) :
    AddsAlong [path] tree made ∧ ∃ place, made.locate path = .ok (place, some .directory) := by
  have hkeeps := (addsDirectories_makeDirectory h).keepsDirectories
  obtain ⟨directory, name, place, happroach, hinside, -, hnone, rfl⟩ :=
    exists_put_of_makeDirectory h
  have hself : (tree.put place .directory).get? place = some .directory :=
    get?_put_self (ne_directory_of_get?_eq_none hnone)
  -- The way to the new directory led through others that are still there.
  have hlocate : (tree.put place .directory).locate path = .ok (place, some .directory) := by
    obtain ⟨hclean, hshort, hsome, henter, rfl⟩ := approach_eq_ok_iff.1 happroach
    refine locate_directory_iff.2 ⟨⟨hclean, hshort, hsome⟩, ?_⟩
    exact (enter_dropLast_iff (get?_origin _ path)).2
      ⟨directory, hkeeps.enter henter, hinside, hself⟩
  refine ⟨⟨rfl, fun other => ?_⟩, place, hlocate⟩
  by_cases hother : other = place
  · subst hother
    exact .inr ⟨hnone, hself, path, List.mem_singleton_self _, hlocate⟩
  · exact .inl (get?_put_of_ne hother)

theorem keepDirectory_eq_ok (h : tree.keepDirectory path = (.ok (), made)) :
    AddsAlong [path] tree made ∧ ∃ place, made.locate path = .ok (place, some .directory) := by
  unfold keepDirectory at h
  split at h
  · next hmade =>
    obtain ⟨-, rfl⟩ := Prod.mk.inj h
    exact makeDirectory_eq_ok hmade
  · split at h
    · next hthere =>
      obtain ⟨-, rfl⟩ := Prod.mk.inj h
      refine ⟨.refl _ tree, ?_⟩
      -- The path has been found to lead to a directory.
      rw [Bool.and_eq_true, hasDirectory] at hthere
      split at hthere
      · next place hlocate => exact ⟨place, hlocate⟩
      · cases hthere.2
    · cases (Prod.mk.inj h).1

/-- The first of some directories, each of which lies in the next, is there when it could be made.
Those that were missing are on the way to it. -/
theorem makeInnermost_eq_ok (h : tree.makeInnermost paths = (.ok (), made)) :
    AddsAlong paths tree made ∧
      ∀ path, paths.head? = some path →
        ∃ place, made.locate path = .ok (place, some .directory) := by
  induction paths generalizing made with
  | nil =>
    obtain ⟨-, rfl⟩ := Prod.mk.inj h
    exact ⟨.refl [] tree, by simp⟩
  | cons path above ih =>
    have hself : [path] ⊆ path :: above := by simp
    simp only [List.head?_cons, Option.some.injEq, forall_eq']
    rw [makeInnermost] at h
    split at h
    · next hmade =>
      obtain ⟨-, rfl⟩ := Prod.mk.inj h
      obtain ⟨hadds, hlocate⟩ := keepDirectory_eq_ok hmade
      exact ⟨hadds.mono hself, hlocate⟩
    · split at h
      · -- The directories above are made first, and then this one.
        split at h
        · next hinner =>
          obtain ⟨habove, -⟩ := ih hinner
          obtain ⟨hadds, hlocate⟩ := keepDirectory_eq_ok h
          exact ⟨(habove.mono (List.subset_cons_self _ _)).trans (hadds.mono hself), hlocate⟩
        · cases (Prod.mk.inj h).1
      · cases (Prod.mk.inj h).1

/-- The directory of a path is there when it could be made. Only directories on the way to it have
been added. -/
theorem makeDirectories_eq_ok (h : tree.makeDirectories path = (.ok (), made)) :
    AddsAlong (path :: Path.above path) tree made ∧
      (path = "" ∨ ∃ place, made.locate path = .ok (place, some .directory)) := by
  unfold makeDirectories at h
  split at h
  · next hempty =>
    obtain ⟨-, rfl⟩ := Prod.mk.inj h
    exact ⟨.refl _ tree, .inl hempty⟩
  · obtain ⟨hadds, hlocate⟩ := makeInnermost_eq_ok h
    exact ⟨hadds, .inr (hlocate path rfl)⟩

/-- A directory that is there need not be made. -/
theorem makeDirectories_of_directory (h : tree.locate path = .ok (place, some .directory)) :
    tree.makeDirectories path = (.ok (), tree) := by
  obtain ⟨directory, name, happroach, hinside, hplace⟩ := exists_approach_of_locate h
  obtain ⟨-, -, hsome, -, -⟩ := approach_eq_ok_iff.1 happroach
  have hthere : tree.makeDirectory path = .error alreadyThere := by
    rw [makeDirectory, happroach, ok_bind]
    dsimp only
    split
    · rfl
    · rw [hinside, ok_bind, hplace]
      rfl
  have hdirectory : tree.hasDirectory path = true := by
    rw [hasDirectory, h]
  -- A directory that is there is no failure to make one.
  have hkeep : tree.keepDirectory path = (.ok (), tree) := by
    rw [keepDirectory, hthere]
    exact if_pos (by rw [hdirectory, decide_eq_true rfl]; rfl)
  rw [makeDirectories, if_neg hsome, makeInnermost, hkeep]

/-- Without a path the directory is the working directory. -/
theorem exists_walk_of_makeDirectories (h : tree.makeDirectories path = (.ok (), made)) :
    ∃ place, made.walk path = .ok place := by
  rcases (makeDirectories_eq_ok h).2 with rfl | ⟨place, hlocate⟩
  · exact ⟨made.workingDirectory, rfl⟩
  · exact ⟨place, (locate_directory_iff.1 hlocate).2⟩

end FileTree

section Run

variable {α β σ ε : Type} {s after : σ} {x : ExceptT Error (StateM σ) α}
  {f : α → ExceptT Error (StateM σ) β} {b : β}

/-- Steps in a row succeed when each of them does. -/
theorem run_bind_eq_ok_iff : (x >>= f).run.run s = (.ok b, after) ↔
    ∃ a middle, x.run.run s = (.ok a, middle) ∧ (f a).run.run middle = (.ok b, after) := by
  rcases hx : x.run.run s with ⟨result, middle⟩
  cases result with
  | error error =>
    rw [run_bind_of_error hx]
    constructor
    · exact fun h => nomatch (Prod.mk.inj h).1
    · exact fun ⟨_, _, h, _⟩ => nomatch (Prod.mk.inj h).1
  | ok a =>
    rw [run_bind_of_ok hx]
    constructor
    · exact fun h => ⟨a, middle, rfl, h⟩
    · rintro ⟨_, _, h, hrest⟩
      obtain ⟨ha, rfl⟩ := Prod.mk.inj h
      obtain rfl := Except.ok.inj ha
      exact hrest

theorem run_attempt_eq_ok_iff {operation : StateM σ (Except ε α)} {error : ε → Error} {a : α} :
    (Storage.attempt operation error).run.run s = (.ok a, after) ↔
      operation.run s = (.ok a, after) := by
  rcases hrun : operation.run s with ⟨result, middle⟩
  rw [run_attempt hrun, Prod.mk.injEq, Prod.mk.injEq, mapError_eq_ok_iff]

/-- Steps in a row fail when the first one does, or when it succeeds and the rest fails. -/
theorem run_bind_eq_error_iff {e : Error} : (x >>= f).run.run s = (.error e, after) ↔
    x.run.run s = (.error e, after) ∨
      ∃ a middle, x.run.run s = (.ok a, middle) ∧ (f a).run.run middle = (.error e, after) := by
  rcases hx : x.run.run s with ⟨result, middle⟩
  cases result with
  | error error =>
    rw [run_bind_of_error hx]
    constructor
    · intro h
      obtain ⟨herror, rfl⟩ := Prod.mk.inj h
      exact .inl (by rw [Except.error.inj herror])
    · rintro (h | ⟨_, _, h, -⟩)
      · obtain ⟨herror, rfl⟩ := Prod.mk.inj h
        rw [Except.error.inj herror]
      · exact nomatch (Prod.mk.inj h).1
  | ok a =>
    rw [run_bind_of_ok hx]
    constructor
    · exact fun h => .inr ⟨a, middle, rfl, h⟩
    · rintro (h | ⟨_, _, h, hrest⟩)
      · exact nomatch (Prod.mk.inj h).1
      · obtain ⟨ha, rfl⟩ := Prod.mk.inj h
        obtain rfl := Except.ok.inj ha
        exact hrest

theorem run_attempt_eq_error_iff {operation : StateM σ (Except ε α)} {error : ε → Error}
    {e : Error} : (Storage.attempt operation error).run.run s = (.error e, after) ↔
      ∃ reason, operation.run s = (.error reason, after) ∧ error reason = e := by
  rcases hrun : operation.run s with ⟨result, middle⟩
  rw [run_attempt hrun, Prod.mk.injEq, mapError_eq_error_iff]
  constructor
  · rintro ⟨⟨reason, rfl, rfl⟩, rfl⟩
    exact ⟨reason, rfl, rfl⟩
  · rintro ⟨reason, hresult, rfl⟩
    obtain ⟨rfl, rfl⟩ := Prod.mk.inj hresult
    exact ⟨⟨reason, rfl, rfl⟩, rfl⟩

/-- Steps for the elements of a list, one after the other, fail at one of them. Those before it
have succeeded. -/
theorem run_mapM_eq_error {g : α → ExceptT Error (StateM σ) β} {l : List α} {e : Error}
    (h : (l.mapM g).run.run s = (.error e, after)) :
    ∃ front a back made middle, l = front ++ a :: back ∧
      (front.mapM g).run.run s = (.ok made, middle) ∧
      (g a).run.run middle = (.error e, after) := by
  induction l generalizing s with
  | nil => exact nomatch (Prod.mk.inj h).1
  | cons first rest ih =>
    rw [List.mapM_cons] at h
    -- The first step fails, or it succeeds and one of the others fails.
    rcases run_bind_eq_error_iff.1 h with hfirst | ⟨b, between, hfirst, htail⟩
    · exact ⟨[], first, rest, [], s, rfl, rfl, hfirst⟩
    · rcases run_bind_eq_error_iff.1 htail with hrest | ⟨_, _, -, hreturn⟩
      · obtain ⟨front, a, back, made, middle, rfl, hfront, ha⟩ := ih hrest
        refine ⟨first :: front, a, back, b :: made, middle, rfl, ?_, ha⟩
        rw [List.mapM_cons, run_bind_of_ok hfirst, run_bind_of_ok hfront]
        rfl
      · exact nomatch (Prod.mk.inj hreturn).1

/-- Steps that succeed when they are evaluated leave some state behind. -/
theorem exists_run_of_toOption {a : α} (h : (x.run.run s).1.toOption = some a) :
    ∃ after, x.run.run s = (.ok a, after) :=
  ⟨_, Prod.ext (eq_ok_of_toOption h) rfl⟩

end Run

namespace Collection

variable {σ : Type} [Storage (StateM σ)] {s left : σ} {tree after : FileTree}
  {migrations : List Artifact} {directory : String} {place : List String} {file : Artifact}

/-! ### Names in one directory -/

/-- Files that can stand in one directory: each has a path that is one name, and its own. -/
structure NamedApart (files : List Artifact) : Prop where
  ne_empty : ∀ file ∈ files, file.path ≠ ""
  slash_not_mem : ∀ file ∈ files, '/' ∉ file.path.toList
  nodup : (files.map (·.path)).Nodup

/-- So can those in front of some of them. -/
theorem NamedApart.of_append {front back : List Artifact} (h : NamedApart (front ++ back)) :
    NamedApart front where
  ne_empty other hother := h.ne_empty other (List.mem_append_left _ hother)
  slash_not_mem other hother := h.slash_not_mem other (List.mem_append_left _ hother)
  nodup := by
    have hall := h.nodup
    rw [List.map_append] at hall
    exact hall.of_append_left

theorem NamedApart.of_cons {rest : List Artifact} (h : NamedApart (file :: rest)) :
    NamedApart rest where
  ne_empty := (List.forall_mem_cons.1 h.ne_empty).2
  slash_not_mem := (List.forall_mem_cons.1 h.slash_not_mem).2
  nodup := (List.nodup_cons.1 h.nodup).2

/-- A file has another name than those in front of it. -/
theorem NamedApart.not_mem_front {front back : List Artifact}
    (h : NamedApart (front ++ file :: back)) : file.path ∉ front.map (·.path) := by
  have hall := h.nodup
  rw [List.map_append, List.map_cons, List.nodup_append] at hall
  exact fun hmem => hall.2.2 _ hmem _ List.mem_cons_self rfl

/-- In one place a file stands apart from all files that have other names. -/
theorem apart_of_not_mem {kept : List Artifact} (place : List String)
    (h : file.path ∉ kept.map (·.path)) :
    ∀ other ∈ kept, place ++ [file.path] ≠ place ++ [other.path] := by
  intro other hother heq
  have hpath : file.path = other.path := by simpa using heq
  exact h (hpath ▸ List.mem_map_of_mem hother)

/-! ### The check -/

/-- A clash that is found is one of a name with a migration. -/
theorem mem_of_findClash {names : List String} {name : String}
    (h : findClash migrations names = some (name, file)) :
    name ∈ names ∧ file ∈ migrations ∧ clashes name file = true := by
  obtain ⟨found, hfound, hpair⟩ := List.exists_of_findSome?_eq_some h
  obtain ⟨other, hother, heq⟩ := Option.map_eq_some_iff.1 hpair
  obtain ⟨rfl, rfl⟩ := Prod.mk.inj heq
  exact ⟨hfound, List.mem_of_find?_eq_some hother, by simpa using List.find?_some hother⟩

/-- What a check says of a directory with these names, or of one that could not be listed. -/
def verdict (migrations : List Artifact) (directory : String) :
    Except String (List String) → Except Error Unit
  | .error reason => .error (.fileRead directory reason)
  | .ok names =>
    match findClash migrations (Path.finalName directory :: names) with
    | some (name, migration) =>
      .error (.duplicateArtifact migration.path (.onDisk name directory))
    | none => .ok ()

theorem verdict_eq_ok_iff {listed : Except String (List String)} :
    verdict migrations directory listed = .ok () ↔ ∃ names, listed = .ok names ∧
      findClash migrations (Path.finalName directory :: names) = none := by
  cases listed with
  | error reason => exact ⟨nofun, nofun⟩
  | ok names =>
    cases hclash : findClash migrations (Path.finalName directory :: names) with
    | some clash => simp [verdict, hclash]
    | none => simp [verdict, hclash]

/-- A directory is refused for a name that clashes, or for the want of its names. -/
theorem cases_of_verdict {listed : Except String (List String)} {e : Error}
    (h : verdict migrations directory listed = .error e) :
    (∃ name, ∃ file ∈ migrations, e = .duplicateArtifact file.path (.onDisk name directory)) ∨
      ∃ reason, e = .fileRead directory reason := by
  unfold verdict at h
  split at h
  · next reason => exact .inr ⟨reason, (Except.error.inj h).symm⟩
  · split at h
    · next name migration hclash =>
      exact .inl ⟨name, migration, (mem_of_findClash hclash).2.1, (Except.error.inj h).symm⟩
    · cases h

/-- A check looks at the names of a directory that is there. -/
theorem run_checkDirectory {there : Bool} {listed : Except String (List String)} {middle : σ}
    (hexists : (Storage.pathExists directory : StateM σ _).run s = (there, middle))
    (hnames : (Storage.namesIn directory : StateM σ _).run middle = (listed, left))
    (migrations : List Artifact) :
    (checkDirectory (m := StateM σ) migrations directory).run.run s =
      if there then (verdict migrations directory listed, left) else (.ok (), middle) := by
  unfold checkDirectory
  rw [run_bind_of_ok (run_lift hexists)]
  cases there with
  | false => rfl
  | true =>
    have hattempt := run_attempt hnames (.fileRead directory)
    cases listed with
    | error reason => exact run_bind_of_error hattempt _
    | ok names =>
      refine (run_bind_of_ok hattempt _).trans ?_
      rw [verdict]
      cases findClash migrations (Path.finalName directory :: names) with
      | none => rfl
      | some clash => rfl

/-- In a file tree it changes nothing. -/
theorem run_checkDirectory_eq (migrations : List Artifact) (directory : String)
    (tree : FileTree) :
    (checkDirectory (m := StateM FileTree) migrations directory).run.run tree =
      (if tree.pathExists directory then verdict migrations directory (tree.namesIn directory)
        else .ok (), tree) := by
  rw [run_checkDirectory (FileTree.run_pathExists directory tree)
    (FileTree.run_namesIn directory tree)]
  split <;> rfl

/-- A directory that is there passes the check when none of its names clashes. -/
theorem names_of_checkDirectory
    (h : (checkDirectory (m := StateM FileTree) migrations directory).run.run tree =
      (.ok (), after)) (hexists : tree.pathExists directory = true) :
    ∃ names, tree.namesIn directory = .ok names ∧
      findClash migrations (Path.finalName directory :: names) = none := by
  rw [run_checkDirectory_eq, if_pos hexists] at h
  exact verdict_eq_ok_iff.1 (Prod.mk.inj h).1

variable {files : σ → FileTree} (hfallible : Storage.Fallible files)

include hfallible

/-- No storage is changed by a check. It refuses a directory for a name that clashes, or for the
want of its names. -/
theorem checkDirectory_cases {result : Except Error Unit}
    (h : (checkDirectory (m := StateM σ) migrations directory).run.run s = (result, left)) :
    files left = files s ∧ ∀ e, result = .error e →
      (∃ name, ∃ file ∈ migrations, e = .duplicateArtifact file.path (.onDisk name directory)) ∨
        ∃ reason, e = .fileRead directory reason := by
  rcases hexists : (Storage.pathExists directory : StateM σ _).run s with ⟨there, middle⟩
  rcases hnames : (Storage.namesIn directory : StateM σ _).run middle with ⟨listed, listedLeft⟩
  have hmiddle : files middle = files s := by
    have hkept := hfallible.pathExists directory s
    rwa [hexists] at hkept
  have hlisted : files listedLeft = files middle := by
    have hkept := hfallible.namesIn directory middle
    rwa [hnames] at hkept
  rw [run_checkDirectory hexists hnames] at h
  split at h
  · obtain ⟨rfl, rfl⟩ := Prod.mk.inj h
    exact ⟨hlisted.trans hmiddle, fun e herror => cases_of_verdict herror⟩
  · obtain ⟨rfl, rfl⟩ := Prod.mk.inj h
    exact ⟨hmiddle, nofun⟩

/-! ### Files -/

/-- A file that is written goes to the place of its name in the directory, where no directory
was. -/
theorem run_writeFile {path : String}
    (hdirectory : (files s).walk directory = .ok place) (hsome : file.path ≠ "")
    (hslash : '/' ∉ file.path.toList)
    (h : (writeFile (m := StateM σ) directory file).run.run s = (.ok path, left)) :
    path = Path.join directory file.path ∧
      (files s).get? (place ++ [file.path]) ≠ some .directory ∧
      files left = (files s).put (place ++ [file.path]) (.text file.content) := by
  obtain ⟨_, middle, hwrite, hreturn⟩ := run_bind_eq_ok_iff.1 h
  obtain ⟨hpath, rfl⟩ := Prod.mk.inj hreturn
  have hwritten := hfallible.writeText_ok _ _ _ _ (run_attempt_eq_ok_iff.1 hwrite)
  unfold FileTree.writeText at hwritten
  split at hwritten
  · next found hwritable =>
    obtain ⟨rfl, hfile⟩ :=
      FileTree.place_of_writable_join hdirectory hsome hslash hwritable
    exact ⟨(Except.ok.inj hpath).symm, hfile, (Prod.mk.inj hwritten).2.symm⟩
  · cases (Prod.mk.inj hwritten).1

/-- A file that cannot be written is there in part, at most. Nothing else has changed. -/
theorem run_writeFile_error {e : Error}
    (h : (writeFile (m := StateM σ) directory file).run.run s = (.error e, left)) :
    (files s).SpoilsFile (Path.join directory file.path) (files left) ∧
      ∃ reason, e = .fileWrite (Path.join directory file.path) reason := by
  rcases run_bind_eq_error_iff.1 h with hattempt | ⟨_, _, -, hreturn⟩
  · obtain ⟨reason, hwrite, rfl⟩ := run_attempt_eq_error_iff.1 hattempt
    exact ⟨hfallible.writeText_error _ _ _ _ _ hwrite, reason, rfl⟩
  · exact nomatch (Prod.mk.inj hreturn).1

/-- Files that are written one after the other, each under its own name, stand in the directory
with their contents. Nothing else is changed, no file takes the place of a directory, and none is a
loose end. -/
theorem run_writeFiles {kept : List Artifact} {paths : List String}
    (hdirectory : (files s).walk directory = .ok place) (hnamed : NamedApart kept)
    (h : (kept.mapM (writeFile (m := StateM σ) directory)).run.run s = (.ok paths, left)) :
    paths = kept.map (fun file => Path.join directory file.path) ∧
      (files s).KeepsDirectories (files left) ∧ ((files s).Rooted → (files left).Rooted) ∧
      (∀ file ∈ kept, (files left).get? (place ++ [file.path]) = some (.text file.content)) ∧
      ∀ other, (∀ file ∈ kept, other ≠ place ++ [file.path]) →
        (files left).get? other = (files s).get? other := by
  induction kept generalizing s paths with
  | nil =>
    obtain ⟨hpaths, rfl⟩ := Prod.mk.inj h
    exact ⟨(Except.ok.inj hpaths).symm, .refl _, id, by simp, fun _ _ => rfl⟩
  | cons file rest ih =>
    have hapart : file.path ∉ rest.map (·.path) := (List.nodup_cons.1 hnamed.nodup).1
    rw [List.mapM_cons] at h
    obtain ⟨path, middle, hfirst, hrest⟩ := run_bind_eq_ok_iff.1 h
    obtain ⟨others, last, hothers, hreturn⟩ := run_bind_eq_ok_iff.1 hrest
    obtain ⟨hpaths, rfl⟩ := Prod.mk.inj hreturn
    obtain ⟨rfl, hfile, hmiddle⟩ :=
      run_writeFile hfallible hdirectory (hnamed.ne_empty file List.mem_cons_self)
        (hnamed.slash_not_mem file List.mem_cons_self) hfirst
    -- The directory is where it was, and the file is in it.
    have hput : (files s).KeepsDirectories (files middle) :=
      hmiddle ▸ FileTree.keepsDirectories_put hfile
    obtain ⟨rfl, hkept, hrooted, hwritten, hframe⟩ :=
      ih (hput.walk hdirectory) hnamed.of_cons hothers
    refine ⟨(Except.ok.inj hpaths).symm, hput.trans hkept,
      fun h => hrooted (hmiddle ▸ h.put (FileTree.get?_of_walk hdirectory) hfile), ?_,
      fun other hother => ?_⟩
    · refine List.forall_mem_cons.2 ⟨?_, hwritten⟩
      rw [hframe _ (apart_of_not_mem place hapart), hmiddle, FileTree.get?_put_self hfile]
    · rw [List.forall_mem_cons] at hother
      rw [hframe other hother.2, hmiddle, FileTree.get?_put_of_ne hother.1]

end Collection

end SchemaMigration
