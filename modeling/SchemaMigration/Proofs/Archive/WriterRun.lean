import SchemaMigration.Archive.Writer
import SchemaMigration.Generation.Production
import SchemaMigration.Proofs.Storage.Placement

/-!
# `SchemaMigration.Proofs.Archive.WriterRun`: the steps of a writer in its storage

The storage is a state that each step passes on to the next. The `run_` lemmas say in
which state a step leaves the rest of a run: what follows a step that succeeds or fails, a
sink that takes an artifact or refuses it, and a writer whose storage does what it is asked
for or does not.

`OpensArchive` says that the storage operations of one archive succeed in a file tree: the
directory of the target can be made, a temporary file can be opened in it, and the archive
can be put at the target.
-/

set_option autoImplicit false

namespace SchemaMigration

/-! ### Steps in a storage that is threaded through -/

section Run

variable {α β σ : Type} {s after : σ} {x : ExceptT Error (StateM σ) α}

/-- What follows a step is decided by its outcome, and meets the storage that the step leaves. -/
theorem run_bind (x : ExceptT Error (StateM σ) α) (f : α → ExceptT Error (StateM σ) β) (s : σ) :
    (x >>= f).run.run s = ExceptT.bindCont f (x.run.run s).1 (x.run.run s).2 := rfl

/-- What follows a step that succeeds goes on in the storage that the step leaves. -/
theorem run_bind_of_ok {a : α} (h : x.run.run s = (.ok a, after))
    (f : α → ExceptT Error (StateM σ) β) :
    (x >>= f).run.run s = (f a).run.run after := by
  rw [run_bind, h]
  rfl

/-- Nothing follows a step that fails. -/
theorem run_bind_of_error {error : Error} (h : x.run.run s = (.error error, after))
    (f : α → ExceptT Error (StateM σ) β) :
    (x >>= f).run.run s = (.error error, after) := by
  rw [run_bind, h]
  rfl

/-- A step that cannot fail. -/
theorem run_lift {y : StateM σ α} {a : α} (h : y.run s = (a, after)) :
    (ExceptT.lift y : ExceptT Error (StateM σ) α).run.run s = (.ok a, after) := by
  have hrun : (ExceptT.lift y : ExceptT Error (StateM σ) α).run.run s =
      (.ok (y.run s).1, (y.run s).2) := rfl
  rw [hrun, h]

/-- A storage operation, with its reason for a failure in an error. -/
theorem run_attempt {ε : Type} {operation : StateM σ (Except ε α)} {result : Except ε α}
    (h : operation.run s = (result, after)) (error : ε → Error) :
    (Storage.attempt operation error).run.run s = (result.mapError error, after) := by
  have hrun : (Storage.attempt operation error).run.run s =
      ((operation.run s).1.mapError error, (operation.run s).2) := rfl
  rw [hrun, h]

/-- A sink that takes an artifact is given the next one. -/
theorem run_offer_of_ok {κ : Type} {accept : κ → Artifact → StateM σ (Except Error Unit × κ)}
    {sink next : κ} {artifact : Artifact}
    (h : (accept sink artifact).run s = ((.ok (), next), after)) (rest : List Artifact) :
    (Production.offer accept sink (artifact :: rest)).run s =
      (Production.offer accept next rest).run after := by
  rw [Production.offer, StateT.run_bind, h]
  rfl

/-- A sink that refuses an artifact is not given any other. -/
theorem run_offer_of_error {κ : Type} {accept : κ → Artifact → StateM σ (Except Error Unit × κ)}
    {sink next : κ} {artifact : Artifact} {error : Error}
    (h : (accept sink artifact).run s = ((.error error, next), after)) (rest : List Artifact) :
    (Production.offer accept sink (artifact :: rest)).run s = ((next, .error error), after) := by
  rw [Production.offer, StateT.run_bind, h]
  rfl

/-- A sink that takes all artifacts ends the way their production does. -/
theorem run_into {κ : Type} {accept : κ → Artifact → StateM σ (Except Error Unit × κ)}
    {sink final : κ} {production : Production α}
    (h : (Production.offer accept sink production.artifacts).run s = ((final, .ok ()), after)) :
    (production.into accept sink).run s = ((final, production.outcome), after) := by
  rw [Production.into, StateT.run_bind, h]
  rfl

/-- A sink that refuses an artifact ends the production. -/
theorem run_into_of_error {κ : Type} {accept : κ → Artifact → StateM σ (Except Error Unit × κ)}
    {sink final : κ} {production : Production α} {error : Error}
    (h : (Production.offer accept sink production.artifacts).run s =
      ((final, .error error), after)) :
    (production.into accept sink).run s = ((final, .error error), after) := by
  rw [Production.into, StateT.run_bind, h]
  rfl

end Run

/-! ### A writer -/

/-- The storage operations of an archive succeed in a tree. `opened` is the tree with the
temporary file. -/
structure OpensArchive (tree : FileTree) (target temporary : String) (opened : FileTree) :
    Prop where
  makes : ∃ made, tree.makeDirectories (Path.parent target) = (.ok (), made) ∧
    made.openTemporary (Path.parent target) = (.ok temporary, opened)
  places : (opened.placeArchive temporary target).1 = .ok ()

/-- The entry of an artifact in an archive. -/
def Artifact.toEntry (artifact : Artifact) : String × String :=
  (artifact.path, artifact.content)

/-- The names of entries that are made of files are their paths. -/
theorem Artifact.map_fst_toEntry (files : List Artifact) :
    (files.map Artifact.toEntry).map Prod.fst = files.map (·.path) := by
  rw [List.map_map]
  rfl

namespace ArchiveMember

/-- Entries as they are read after they were written. -/
def ofEntries (entries : ArchiveEntries) : List ArchiveMember :=
  entries.map fun (name, text) => ofEntry name text

theorem ofEntries_append (entries more : ArchiveEntries) :
    ofEntries (entries ++ more) = ofEntries entries ++ ofEntries more :=
  List.map_append

theorem ofEntries_concat (entries : ArchiveEntries) (name text : String) :
    ofEntries (entries ++ [(name, text)]) = ofEntries entries ++ [.ofEntry name text] :=
  ofEntries_append entries [(name, text)]

/-- They have the names that they were written under. -/
theorem map_name_ofEntries (entries : ArchiveEntries) :
    (ofEntries entries).map (·.name) = entries.map Prod.fst := by
  rw [ofEntries, List.map_map]
  rfl

/-- Entries that are made of files are read as the files. -/
theorem ofEntries_toEntry (files : List Artifact) :
    ofEntries (files.map Artifact.toEntry) =
      files.map fun file => ofEntry file.path file.content := by
  rw [ofEntries, List.map_map]
  rfl

end ArchiveMember

namespace ArchiveWriter

variable {σ : Type} [Storage (StateM σ)] {writer next : ArchiveWriter} {s after : σ}
  {target temporary name text reason : String} {names : List String} {error : Error}

theorem state_eq_closed (hclosed : writer.isClosed = true) : writer.state = .closed := by
  simpa [isClosed] using hclosed

/-! ### Entries -/

omit [Storage (StateM σ)] in
/-- An idle writer makes the directory and opens a temporary file. -/
theorem openArchive_of_idle {tree opened : FileTree} (hstate : writer.state = .idle)
    (h : OpensArchive tree writer.target temporary opened) :
    (writer.openArchive (m := StateM FileTree)).run.run tree =
      (.ok { writer with state := .open temporary }, opened) := by
  obtain ⟨made, hmake, hopen⟩ := h.makes
  unfold openArchive
  rw [hstate]
  dsimp only
  rw [run_bind_of_ok (run_attempt ((FileTree.run_makeDirectories _ tree).trans hmake) _),
    run_bind_of_ok (run_attempt ((FileTree.run_openTemporary _ made).trans hopen) _)]
  rfl

/-- An entry that the storage adds is the writer's. -/
theorem run_add_of_ok
    (h : (Storage.addEntry temporary name text : StateM σ _).run s = (.ok (), after)) :
    (add (m := StateM σ) ⟨target, .open temporary, names⟩ name text).run s =
      ((.ok (), ⟨target, .open temporary, names ++ [name]⟩), after) := by
  unfold add
  dsimp only
  rw [StateT.run_bind, h]
  rfl

/-- One that it fails to add is not. -/
theorem run_add_of_error
    (h : (Storage.addEntry temporary name text : StateM σ _).run s = (.error reason, after)) :
    (add (m := StateM σ) ⟨target, .open temporary, names⟩ name text).run s =
      ((.error (.archiveStorage target reason), ⟨target, .open temporary, names⟩), after) := by
  unfold add
  dsimp only
  rw [StateT.run_bind, h]
  rfl

/-- A closed writer takes no entry. -/
theorem run_write_of_closed (hclosed : writer.isClosed = true) (name text : String) (s : σ) :
    (writer.write (m := StateM σ) name text).run s =
      ((.error (.archiveClosed writer.target), writer), s) := by
  rw [write, if_pos hclosed]
  rfl

/-- A name that the writer has is refused before anything is opened. -/
theorem run_write_of_mem (hopen : writer.isClosed = false) (hmem : name ∈ writer.names)
    (text : String) (s : σ) :
    (writer.write (m := StateM σ) name text).run s =
      ((.error (.duplicateArtifact name .inArchive), writer), s) := by
  rw [write, if_neg (by simp [hopen]), if_pos hmem]
  rfl

/-- A new name goes to the archive that is or can be opened. -/
theorem run_write_of_new (hopen : writer.isClosed = false) (hnew : name ∉ writer.names)
    (h : (writer.openArchive (m := StateM σ)).run.run s = (.ok next, after)) (text : String) :
    (writer.write (m := StateM σ) name text).run s =
      (next.add (m := StateM σ) name text).run after := by
  rw [write, if_neg (by simp [hopen]), if_neg hnew, StateT.run_bind, h]
  rfl

/-- It is refused when the archive cannot be opened. -/
theorem run_write_of_error (hopen : writer.isClosed = false) (hnew : name ∉ writer.names)
    (h : (writer.openArchive (m := StateM σ)).run.run s = (.error error, after))
    (text : String) :
    (writer.write (m := StateM σ) name text).run s = ((.error error, writer), after) := by
  rw [write, if_neg (by simp [hopen]), if_neg hnew, StateT.run_bind, h]
  rfl

/-! ### The end -/

/-- An open writer is closed by putting its archive in place. It is closed also when that
fails. -/
theorem run_close_of_open {result : Except String Unit}
    (h : (Storage.placeArchive temporary target : StateM σ _).run s = (result, after)) :
    (close (m := StateM σ) ⟨target, .open temporary, names⟩).run s =
      (((result.map fun _ => target).mapError (.archiveStorage target),
        ⟨target, .closed, names⟩), after) := by
  unfold close finish
  dsimp only
  rw [StateT.run_bind, h]
  cases result <;> rfl

/-- An idle writer is opened on the way, and then closed as an open one. -/
theorem run_close_of_idle (hstate : writer.state = .idle)
    (h : (writer.openArchive (m := StateM σ)).run.run s =
      (.ok ⟨target, .open temporary, names⟩, after)) :
    (writer.close (m := StateM σ)).run s =
      (close (m := StateM σ) ⟨target, .open temporary, names⟩).run after := by
  unfold close
  rw [hstate]
  dsimp only
  rw [StateT.run_bind, h]
  rfl

/-- A closed writer answers with its target. -/
theorem run_close_of_closed (hclosed : writer.isClosed = true) (s : σ) :
    (writer.close (m := StateM σ)).run s = ((.ok writer.target, writer), s) := by
  rw [close, state_eq_closed hclosed]
  rfl

/-- There is nothing to give up once a writer is closed. -/
theorem run_drop_of_closed (hclosed : writer.isClosed = true) (s : σ) :
    (writer.drop (m := StateM σ)).run s = ((), s) := by
  rw [drop, state_eq_closed hclosed]
  rfl

/-- An idle writer that cannot be opened is not closed. -/
theorem run_close_of_error (hstate : writer.state = .idle)
    (h : (writer.openArchive (m := StateM σ)).run.run s = (.error error, after)) :
    (writer.close (m := StateM σ)).run s = ((.error error, writer), after) := by
  unfold close
  rw [hstate]
  dsimp only
  rw [StateT.run_bind, h]
  rfl

end ArchiveWriter

end SchemaMigration
