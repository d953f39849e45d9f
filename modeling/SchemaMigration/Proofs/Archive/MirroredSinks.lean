import SchemaMigration.Proofs.Archive.WriterHistory
import SchemaMigration.Proofs.Generation.Gathering

/-!
# `SchemaMigration.Proofs.Archive.MirroredSinks`: a writer has what a collection has

A collection and a writer are sinks for the same artifacts. The collection is a list. The writer is
idle, opens its archive with the first artifact that it takes, and shows what it has only when it
is closed. Still no artifact tells them apart. Both take the first one of every path and refuse the
others (`answers`), both have the same paths afterwards, and the archive is read back with the
paths and contents of the collection (`sinks_agree`).

`Mirrors` is the relation between the two that one artifact keeps (`Mirrors.takes`,
`Mirrors.refuses`), and therefore any artifacts (`Mirrors.offerEach`). It looks at the storage in one
respect only: the writer is idle in the tree from before, or its temporary file has what the
collection has.
-/

set_option autoImplicit false

namespace SchemaMigration

namespace Production

/-- Gives artifacts to a sink, one after the other, and notes the answers. A sink that refuses an
artifact is given the next one. -/
def offerEach {m : Type → Type} [Monad m] {σ : Type}
    (accept : σ → Artifact → m (Except Error Unit × σ)) (sink : σ) :
    List Artifact → m (List (Except Error Unit) × σ)
  | [] => return ([], sink)
  | artifact :: rest => do
    let (answer, sink) ← accept sink artifact
    let (answers, final) ← offerEach accept sink rest
    return (answer :: answers, final)

/-- The answers of a sink that has the paths in `seen`. The first artifact of every other path is
taken. -/
def answers (clash : NameClash) (seen : List String) : List Artifact → List (Except Error Unit)
  | [] => []
  | file :: rest =>
    (if file.path ∈ seen then .error (.duplicateArtifact file.path clash) else .ok ()) ::
      answers clash (file.path :: seen) rest

/-- The first artifact of every path that is not in `seen`. -/
def firsts (seen : List String) : List Artifact → List Artifact
  | [] => []
  | file :: rest =>
    if file.path ∈ seen then firsts (file.path :: seen) rest
    else file :: firsts (file.path :: seen) rest

/-- In a storage that is threaded through, the other artifacts are given in the storage that the
first one leaves. -/
theorem run_offerEach_cons {σ κ : Type} {accept : κ → Artifact → StateM σ (Except Error Unit × κ)}
    {sink next final : κ} {artifact : Artifact} {rest : List Artifact} {answer : Except Error Unit}
    {answers : List (Except Error Unit)} {s between after : σ}
    (hfirst : (accept sink artifact).run s = ((answer, next), between))
    (hrest : (offerEach accept next rest).run between = ((answers, final), after)) :
    (offerEach accept sink (artifact :: rest)).run s = ((answer :: answers, final), after) := by
  rw [offerEach, StateT.run_bind, hfirst]
  show ((offerEach accept next rest) >>= fun others =>
    Pure.pure (answer :: others.1, others.2)).run between = _
  rw [StateT.run_bind, hrest]
  rfl

end Production

open Production (offerEach answers firsts)

namespace Collection

theorem offerEach_cons {kept next final : Collection} {file : Artifact} {rest : List Artifact}
    {answer : Except Error Unit} {answers : List (Except Error Unit)}
    (hfirst : kept.take file = (answer, next))
    (hrest : offerEach (m := Id) take next rest = (answers, final)) :
    offerEach (m := Id) take kept (file :: rest) = (answer :: answers, final) := by
  show ((kept.take file).1 :: (offerEach (m := Id) take (kept.take file).2 rest).1,
    (offerEach (m := Id) take (kept.take file).2 rest).2) = _
  rw [hfirst, hrest]

/-- A path that is there is refused. -/
theorem accept_eq_error {kept : Collection} {file : Artifact}
    (h : file.path ∈ kept.files.map (·.path)) :
    kept.accept file = .error (.duplicateArtifact file.path .inCollection) := by
  unfold accept
  refine if_pos (List.any_eq_true.2 ?_)
  obtain ⟨other, hother, hpath⟩ := List.mem_map.1 h
  exact ⟨other, hother, beq_iff_eq.2 hpath⟩

theorem take_of_mem {kept : Collection} {file : Artifact}
    (h : file.path ∈ kept.files.map (·.path)) :
    kept.take file = (.error (.duplicateArtifact file.path .inCollection), kept) := by
  rw [take, accept_eq_error h]

end Collection

namespace ArchiveWriter

variable {tree opened current after : FileTree} {target temporary : String} {kept : Collection}
  {writer next : ArchiveWriter} {file : Artifact} {site : ArchiveSite tree target}

/-- The writer has the entries of the collection, and is not closed. -/
def Mirrors (site : ArchiveSite tree target) (kept : Collection) (writer : ArchiveWriter)
    (current : FileTree) : Prop :=
  Standing site false (kept.files.map Artifact.toEntry) writer current

namespace Mirrors

section

variable (h : Mirrors site kept writer current)

include h

theorem names_eq : writer.names = kept.files.map (·.path) :=
  (Standing.names_eq h).trans (Artifact.map_fst_toEntry kept.files)

/-- A path that both have is refused by both, and both stay as they are. -/
theorem refuses (hmem : file.path ∈ kept.files.map (·.path)) :
    kept.take file = (.error (.duplicateArtifact file.path .inCollection), kept) ∧
      (writer.accept (m := StateM FileTree) file).run current =
        ((.error (.duplicateArtifact file.path .inArchive), writer), current) :=
  ⟨Collection.take_of_mem hmem,
    run_write_of_mem (Standing.isClosed_eq h) (h.names_eq ▸ hmem) file.content current⟩

/-- A path that both lack is taken by both, and the writer is open from then on. -/
theorem takes (hnew : file.path ∉ kept.files.map (·.path)) :
    kept.take file = (.ok (), kept.add file) ∧ ∃ after,
      (writer.accept (m := StateM FileTree) file).run current =
        ((.ok (), ⟨target, .open site.temporary, (kept.add file).files.map (·.path)⟩), after) ∧
      Mirrors site (kept.add file)
        ⟨target, .open site.temporary, (kept.add file).files.map (·.path)⟩ after := by
  rw [← Artifact.map_fst_toEntry] at hnew
  obtain ⟨after, hwrite, hholds⟩ := Standing.exists_write h hnew file.content
  have hadded : (kept.add file).files.map Artifact.toEntry =
      kept.files.map Artifact.toEntry ++ [(file.path, file.content)] := List.map_append
  rw [← hadded, Artifact.map_fst_toEntry] at hwrite
  rw [Artifact.map_fst_toEntry] at hnew
  refine ⟨Collection.take_of_new hnew, after, hwrite, ?_⟩
  rw [Mirrors, ← Artifact.map_fst_toEntry, hadded]
  exact .opened hholds

/-- The archive of an open writer has what the collection has. -/
theorem packed (hopen : writer.state = .open temporary) : ∃ aside,
    current.packed? temporary = some (aside,
      kept.files.map fun file => ArchiveMember.ofEntry file.path file.content) := by
  have hpacked := Standing.packed h hopen
  rwa [ArchiveMember.ofEntries_toEntry] at hpacked

/-- The archive that is closed is read back with what the collection has. -/
theorem closes :
    ∃ after, (writer.close (m := StateM FileTree)).run current =
        ((.ok target, ⟨target, .closed, writer.names⟩), after) ∧
      after.readArchive target =
        .ok (kept.files.map fun file => ArchiveMember.ofEntry file.path file.content) := by
  have hread := site.readArchive_placed (kept.files.map Artifact.toEntry)
  rw [ArchiveMember.ofEntries_toEntry] at hread
  refine ⟨_, ?_, hread⟩
  rw [Standing.close_eq h, Standing.names_eq h]

end

/-- Both sinks give the same answers to any artifacts, and one still mirrors the other. -/
theorem offerEach (h : Mirrors site kept writer current) {seen : List String}
    (hseen : ∀ path, path ∈ seen ↔ path ∈ kept.files.map (·.path)) (files : List Artifact) :
    ∃ next after,
      Production.offerEach (m := Id) Collection.take kept files =
        (answers .inCollection seen files,
          { kept with files := kept.files ++ firsts seen files }) ∧
      (Production.offerEach (m := StateM FileTree) accept writer files).run current =
        ((answers .inArchive seen files, next), after) ∧
      Mirrors site { kept with files := kept.files ++ firsts seen files } next after := by
  induction files generalizing kept writer current seen with
  | nil =>
    refine ⟨writer, current, ?_, rfl, ?_⟩
    · simp [Production.offerEach, answers, firsts]
      rfl
    · simpa [firsts] using h
  | cons file rest ih =>
    -- Either way the sinks have the path of the file behind it.
    have hlonger {c : Collection} (hc : ∀ path, path ∈ c.files.map (·.path) ↔
        path = file.path ∨ path ∈ kept.files.map (·.path)) (path : String) :
        path ∈ file.path :: seen ↔ path ∈ c.files.map (·.path) := by
      rw [List.mem_cons, hseen, hc]
    by_cases hmem : file.path ∈ seen
    · obtain ⟨hkept, hwriter⟩ := h.refuses ((hseen _).1 hmem)
      obtain ⟨next, after, hleft, hright, hmirrors⟩ := ih h (hlonger fun path => by
        refine ⟨.inr, ?_⟩
        rintro (rfl | hpath)
        · exact (hseen _).1 hmem
        · exact hpath)
      refine ⟨next, after, ?_, ?_, ?_⟩
      · rw [Collection.offerEach_cons hkept hleft, answers, firsts, if_pos hmem, if_pos hmem]
      · rw [Production.run_offerEach_cons hwriter hright, answers, if_pos hmem]
      · rwa [firsts, if_pos hmem]
    · obtain ⟨hkept, between, hwriter, hfirst⟩ := h.takes (mt (hseen _).2 hmem)
      obtain ⟨next, after, hleft, hright, hmirrors⟩ := ih hfirst (hlonger fun path => by
        simp [Collection.add, or_comm])
      refine ⟨next, after, ?_, ?_, ?_⟩
      · rw [Collection.offerEach_cons hkept hleft, answers, firsts, if_neg hmem, if_neg hmem]
        simp [Collection.add]
      · rw [Production.run_offerEach_cons hwriter hright, answers, if_neg hmem]
      · rw [firsts, if_neg hmem]
        simpa [Collection.add] using hmirrors

end Mirrors

/-! ### What a user of either sink relies on -/

/-- A collection and a writer that cannot be told apart by any artifact, or by the archive. -/
structure Agree (target : String) (kept : Collection) (writer : ArchiveWriter)
    (current : FileTree) : Prop where
  /-- Both have the same paths, in the same order. -/
  names_eq : writer.names = kept.files.map (·.path)
  /-- The archive of the writer has the artifacts of the collection while it is open. -/
  packed : ∀ temporary, writer.state = .open temporary → ∃ aside,
    current.packed? temporary = some (aside,
      kept.files.map fun file => ArchiveMember.ofEntry file.path file.content)
  /-- Both take an artifact with another path, and have it from then on. -/
  takes : ∀ file : Artifact, file.path ∉ writer.names →
    kept.take file = (.ok (), kept.add file) ∧ ∃ temporary after aside,
      (writer.accept (m := StateM FileTree) file).run current =
        ((.ok (), ⟨target, .open temporary, writer.names ++ [file.path]⟩), after) ∧
      after.packed? temporary = some (aside,
        (kept.add file).files.map fun file => ArchiveMember.ofEntry file.path file.content)
  /-- Both refuse an artifact with a path that they have, and both and the storage stay as they
  are. -/
  refuses : ∀ file : Artifact, file.path ∈ writer.names →
    kept.take file = (.error (.duplicateArtifact file.path .inCollection), kept) ∧
      (writer.accept (m := StateM FileTree) file).run current =
        ((.error (.duplicateArtifact file.path .inArchive), writer), current)
  /-- The writer can be closed, and the archive has the artifacts of the collection. -/
  closes : ∃ closed after,
    (writer.close (m := StateM FileTree)).run current = ((.ok target, closed), after) ∧
      closed.isClosed = true ∧ closed.names = writer.names ∧
      after.readArchive target =
        .ok (kept.files.map fun file => ArchiveMember.ofEntry file.path file.content)

theorem Mirrors.agree (h : Mirrors site kept writer current) : Agree target kept writer current where
  names_eq := h.names_eq
  packed := fun _ hopen => h.packed hopen
  takes := by
    intro file hnew
    obtain ⟨hkept, after, hwriter, hnext⟩ := h.takes (h.names_eq ▸ hnew)
    obtain ⟨aside, hpacked⟩ := hnext.packed rfl
    refine ⟨hkept, site.temporary, after, aside, ?_, hpacked⟩
    rw [hwriter, h.names_eq, Collection.add, List.map_append]
    rfl
  refuses := fun file hmem => h.refuses (h.names_eq ▸ hmem)
  closes := by
    obtain ⟨after, hclose, hread⟩ := h.closes
    exact ⟨_, after, hclose, rfl, rfl, hread⟩

/-- Where the storage of an archive works, a new collection and a new writer give the same answers to
any artifacts: the first one of every path is taken, and every other one is refused under its path.
Afterwards the collection has the artifacts that were taken, and the writer agrees with it. -/
theorem sinks_agree (hopens : OpensArchive tree target temporary opened) (files : List Artifact) :
    ∃ kept writer current,
      Production.offerEach (m := Id) Collection.take .empty files =
        (answers .inCollection [] files, kept) ∧
      (Production.offerEach (m := StateM FileTree) accept (.new target) files).run tree =
        ((answers .inArchive [] files, writer), current) ∧
      kept.files = firsts [] files ∧ Agree target kept writer current := by
  obtain ⟨site, -⟩ := ArchiveSite.exists_of_opensArchive hopens
  have hnew : Mirrors site .empty (.new target) tree := Standing.idle
  have hseen (path : String) : path ∈ ([] : List String) ↔
      path ∈ Collection.empty.files.map (·.path) := by
    simp [Collection.empty]
  obtain ⟨writer, current, hkept, hwriter, hmirrors⟩ := hnew.offerEach hseen files
  exact ⟨_, writer, current, hkept, hwriter, rfl, hmirrors.agree⟩

/-- Two artifacts of one path, and another one. -/
def repeatedFiles : List Artifact :=
  [⟨"a.php", "1", .table⟩, ⟨"a.php", "2", .table⟩, .snapshot "s"]

/-- Both sinks refuse the second of them, and the archive has the other two. -/
theorem sinks_agree_repeatedFiles :
    OpensArchive staleTree "/out/m.zip" "/out/.tmp000000"
        (staleTree.put ["out", ".tmp000000"] (.unfinished [])) ∧
      ∃ kept writer current closed after,
        Production.offerEach (m := Id) Collection.take .empty repeatedFiles =
          ([.ok (), .error (.duplicateArtifact "a.php" .inCollection), .ok ()], kept) ∧
        (Production.offerEach (m := StateM FileTree) accept (.new "/out/m.zip")
            repeatedFiles).run staleTree =
          (([.ok (), .error (.duplicateArtifact "a.php" .inArchive), .ok ()], writer), current) ∧
        writer.names = ["a.php", "schema.json"] ∧
        (writer.close (m := StateM FileTree)).run current = ((.ok "/out/m.zip", closed), after) ∧
        after.readArchive "/out/m.zip" =
          .ok [.ofEntry "a.php" "1", .ofEntry "schema.json" "s"] := by
  obtain ⟨kept, writer, current, hkept, hwriter, hfiles, hagree⟩ :=
    sinks_agree opensArchive_staleTree repeatedFiles
  have hfirsts : firsts [] repeatedFiles = [⟨"a.php", "1", .table⟩, .snapshot "s"] := by decide
  obtain ⟨closed, after, hclose, -, -, hread⟩ := hagree.closes
  refine ⟨opensArchive_staleTree, kept, writer, current, closed, after, hkept, hwriter, ?_, hclose,
    ?_⟩
  · rw [hagree.names_eq, hfiles, hfirsts]
    rfl
  · rw [hread, hfiles, hfirsts]
    rfl

end ArchiveWriter

end SchemaMigration
