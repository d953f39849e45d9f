import SchemaMigration.Proofs.Archive.WriterSteps

/-!
# `SchemaMigration.Proofs.Archive.WriterHistory`: every use of a writer

A writer may be opened, written to and closed in any order and any number of times. After
each operation it stands in one of three ways, with the entries that the log of the
operations has (`Reached.perform`), and so it does after all of them
(`Reached.performAll`).

`performAll_new` puts together what a user of a writer relies on (`Recorded`), whatever
has been asked of the writer so far.
-/

set_option autoImplicit false

namespace SchemaMigration.ArchiveWriter

variable {tree current : FileTree} {target : String} {site : ArchiveSite tree target}
  {writer : ArchiveWriter} {closed : Bool} {entries : ArchiveEntries}

/-- The operations of a log have been performed, and the writer stands in the tree with their
entries. -/
structure Reached (site : ArchiveSite tree target) (log : Log) (writer : ArchiveWriter)
    (current : FileTree) : Prop where
  standing : Standing site (decide (.close ∈ log.map Prod.fst)) log.entries writer current
  nodup_names : writer.names.Nodup

namespace Reached

variable {log : Log}

theorem new (site : ArchiveSite tree target) : Reached site [] (.new target) tree where
  standing := .idle
  nodup_names := .nil

/-- One operation more. -/
theorem perform (h : Reached site log writer current) (operation : Operation) :
    ∃ answer next after,
      (operation.perform (m := StateM FileTree) writer).run current = ((answer, next), after) ∧
        Reached site (log ++ [(operation, answer)]) next after := by
  obtain ⟨next, after, hperformed⟩ := h.standing.exists_performed operation
  refine ⟨_, next, after, hperformed.run_eq, ?_⟩
  -- The new log decides both whether the writer is closed and which entries it has.
  generalize hanswer : operation.answer (decide (.close ∈ log.map Prod.fst)) writer = answer
  have hcloses : decide (.close ∈ (log ++ [(operation, answer)]).map Prod.fst) =
      (decide (.close ∈ log.map Prod.fst) || decide (operation = .close)) := by
    rw [List.map_append, List.map_singleton, ← Bool.decide_or]
    simp only [List.mem_append, List.mem_singleton, eq_comm]
  have hstanding : Standing site (decide (.close ∈ (log ++ [(operation, answer)]).map Prod.fst))
      (Log.entries (log ++ [(operation, answer)])) next after := by
    rw [hcloses, Log.entries_append, Log.entries_singleton, ← hanswer]
    exact hperformed.standing
  refine ⟨hstanding, ?_⟩
  have hnames := h.nodup_names
  rw [h.standing.names_eq] at hnames
  rw [hstanding.names_eq, Log.entries_append, Log.entries_singleton, List.map_append]
  -- An operation that fails adds no name, and one that succeeds adds a new one.
  cases hok : answer.isOk with
  | false => simpa [Operation.added, hok] using hnames
  | true =>
    cases hentry : operation.entry? with
    | none => simpa [Operation.added_of_none hentry] using hnames
    | some entry =>
      have hnew := operation.not_mem_of_answer (hanswer ▸ hok) hentry
      rw [h.standing.names_eq] at hnew
      rw [Operation.added, hok, if_pos rfl, hentry, Option.toList_some, List.map_singleton,
        ← List.concat_eq_append]
      exact hnames.concat hnew

/-- Any operations more. -/
theorem performAll (h : Reached site log writer current) (operations : List Operation) :
    ∃ more next after,
      (ArchiveWriter.performAll (m := StateM FileTree) operations writer).run current =
        ((more, next), after) ∧
        more.map Prod.fst = operations ∧ Reached site (log ++ more) next after := by
  induction operations generalizing log writer current with
  | nil => exact ⟨[], writer, current, rfl, rfl, by rwa [List.append_nil]⟩
  | cons operation rest ih =>
    -- The rest is performed behind a log that is longer by this operation.
    obtain ⟨answer, next, between, hfirst, hreached⟩ := h.perform operation
    obtain ⟨more, final, after, hrest, hoperations, hdone⟩ := ih hreached
    refine ⟨(operation, answer) :: more, final, after, run_performAll_cons hfirst hrest,
      by rw [List.map_cons, hoperations], ?_⟩
    rwa [List.append_assoc, List.singleton_append] at hdone

end Reached

/-! ### What a user of a writer relies on -/

/-- The answer to an operation, and the writer and the tree after it. -/
def Operation.result (operation : Operation) (writer : ArchiveWriter) (current : FileTree) :
    (Except Error Unit × ArchiveWriter) × FileTree :=
  (operation.perform (m := StateM FileTree) writer).run current

/-- A writer after some operations, in the tree that they have left. `place` is where the
archive belongs, and `tree` is the tree from before. -/
structure Recorded (tree : FileTree) (target : String) (place : List String)
    (operations : List Operation) (log : Log) (writer : ArchiveWriter) (current : FileTree) :
    Prop where
  /-- Every operation has been answered. -/
  operations_eq : log.map Prod.fst = operations
  /-- No name comes twice. -/
  nodup_names : writer.names.Nodup
  /-- The names are those of the writes that succeeded, in order. -/
  names_eq : writer.names = log.entries.map Prod.fst
  /-- While the writer is open, the archive in its temporary file has these entries. -/
  packed : ∀ temporary, writer.state = .open temporary → ∃ aside,
    current.packed? temporary = some (aside, ArchiveMember.ofEntries log.entries)
  /-- The next write succeeds when the writer is not closed and does not have the name. -/
  write_answer : ∀ (operation : Operation) (name text : String),
    operation.entry? = some (name, text) →
      (operation.result writer current).1.1 =
        if .close ∈ operations then .error (.archiveClosed target)
        else if name ∈ writer.names then .error (.duplicateArtifact name .inArchive)
        else .ok ()
  /-- The writer can be opened when it is not closed. -/
  open_answer : (Operation.openArchive.result writer current).1.1 =
    if .close ∈ operations then .error (.archiveClosed target) else .ok ()
  /-- The writer can always be closed. -/
  close_answer : (Operation.close.result writer current).1.1 = .ok ()
  /-- An operation that fails changes neither the writer nor the tree. -/
  unchanged : ∀ (operation : Operation) (error : Error),
    (operation.result writer current).1.1 = .error error →
      operation.result writer current = ((.error error, writer), current)
  /-- Before the writer is closed the target is as it was. -/
  untouched : .close ∉ operations → current.get? place = tree.get? place
  /-- From then on the archive with the entries is at the target and can be read there. -/
  placed : .close ∈ operations →
    current.get? place = some (.archive (ArchiveMember.ofEntries log.entries)) ∧
      current.readArchive target = .ok (ArchiveMember.ofEntries log.entries)
  /-- Nothing changes the writer or the tree any more. -/
  settled : .close ∈ operations → ∀ operation : Operation, ∃ answer,
    operation.result writer current = ((answer, writer), current)
  /-- A writer that is given up before it is closed leaves the target as it was, and no file
  that was not there. -/
  dropped : .close ∉ operations → ∃ left,
    (writer.drop (m := StateM FileTree)).run current = ((), left) ∧
      left.get? place = tree.get? place ∧ FileTree.AddsDirectories tree left

/-- A writer that is given up leaves the directory of its target, at most. -/
theorem Standing.dropped (h : Standing site false entries writer current) : ∃ left,
    (writer.drop (m := StateM FileTree)).run current = ((), left) ∧
      left.get? site.place = tree.get? site.place ∧ FileTree.AddsDirectories tree left := by
  cases h with
  | idle => exact ⟨tree, rfl, rfl, .refl tree⟩
  | opened holds =>
    refine ⟨site.made, ?_, site.get?_made, site.adds⟩
    show ((), current.discardTemporary site.temporary) = _
    rw [holds.discardTemporary_eq]

theorem Standing.packed (h : Standing site closed entries writer current) {temporary : String}
    (hopen : writer.state = .open temporary) :
    ∃ aside, current.packed? temporary = some (aside, ArchiveMember.ofEntries entries) := by
  cases h with
  | idle | closed => cases hopen
  | opened holds =>
    obtain rfl := State.open.inj hopen
    obtain ⟨aside, hpacked, -⟩ := FileTree.AddsTemporary.packed?_eq holds
    exact ⟨aside, hpacked⟩

theorem Standing.untouched (h : Standing site false entries writer current)
    (hname : (Path.parts target).getLast? ≠ (Path.parts site.temporary).getLast?) :
    current.get? site.place = tree.get? site.place := by
  cases h with
  | idle => rfl
  | opened holds => exact holds.get?_eq hname

theorem Standing.placed (h : Standing site true entries writer current) :
    current.get? site.place = some (.archive (ArchiveMember.ofEntries entries)) ∧
      current.readArchive target = .ok (ArchiveMember.ofEntries entries) := by
  cases h with
  | closed entries => exact ⟨site.get?_placed entries, site.readArchive_placed entries⟩

/-- The answer to an operation. -/
theorem Standing.answer_eq (h : Standing site closed entries writer current)
    (operation : Operation) :
    (operation.result writer current).1.1 = operation.answer closed writer := by
  obtain ⟨next, after, hperformed⟩ := h.exists_performed operation
  rw [Operation.result, hperformed.run_eq]

theorem Reached.recorded {log : Log} {operations : List Operation}
    (h : Reached site log writer current) (hoperations : log.map Prod.fst = operations)
    (hname : (Path.parts target).getLast? ≠ (Path.parts site.temporary).getLast?) :
    Recorded tree target site.place operations log writer current := by
  -- Whether there is a `close` among the operations says in which way the writer stands.
  have hstanding := h.standing
  rw [hoperations] at hstanding
  have hopen (hclose : .close ∉ operations) : Standing site false log.entries writer current := by
    rwa [decide_eq_false hclose] at hstanding
  have hclosed (hclose : .close ∈ operations) : Standing site true log.entries writer current := by
    rwa [decide_eq_true hclose] at hstanding
  exact {
    operations_eq := hoperations
    nodup_names := h.nodup_names
    names_eq := hstanding.names_eq
    packed := fun _ hstate => hstanding.packed hstate
    write_answer := by
      intro operation name text hentry
      rw [hstanding.answer_eq, Operation.answer, if_neg (operation.ne_close_of_entry hentry),
        hentry, hstanding.target_eq]
      simp only [decide_eq_true_eq]
    open_answer := by
      rw [hstanding.answer_eq, Operation.answer, if_neg (by simp), hstanding.target_eq]
      simp only [decide_eq_true_eq]
      rfl
    close_answer := hstanding.answer_eq .close
    unchanged := by
      intro operation error herror
      obtain ⟨next, after, hperformed⟩ := hstanding.exists_performed operation
      rw [hstanding.answer_eq] at herror
      obtain ⟨rfl, rfl⟩ := hperformed.unchanged (.inl (by rw [herror]; rfl))
      rw [Operation.result, hperformed.run_eq, herror]
    untouched := fun hclose => (hopen hclose).untouched hname
    placed := fun hclose => (hclosed hclose).placed
    settled := fun hclose operation =>
      ⟨_, ((hclosed hclose).performed_of_closed operation).run_eq⟩
    dropped := fun hclose => (hopen hclose).dropped }

/-- Where the storage of an archive works, any operations on a new writer are answered, and
leave the writer and the tree as `Recorded` says. -/
theorem performAll_new {opened : FileTree} {temporary : String}
    (h : OpensArchive tree target temporary opened)
    (hname : (Path.parts target).getLast? ≠ (Path.parts temporary).getLast?) :
    ∃ place, (tree.makeDirectories (Path.parent target)).2.writable target = .ok place ∧
      ∀ operations, ∃ log writer current,
        (performAll (m := StateM FileTree) operations (.new target)).run tree =
            ((log, writer), current) ∧
          Recorded tree target place operations log writer current := by
  obtain ⟨site, rfl, hplace⟩ := ArchiveSite.exists_of_opensArchive h
  refine ⟨site.place, hplace, fun operations => ?_⟩
  obtain ⟨log, writer, current, hrun, hoperations, hreached⟩ :=
    (Reached.new site).performAll operations
  exact ⟨log, writer, current, hrun, hreached.recorded hoperations hname⟩

/-- A directory with a file where an archive belongs, beside the working directory. -/
def staleTree : FileTree where
  entries := [(["out"], .directory), (["out", "m.zip"], .text "stale")]
  workingDirectory := ["home"]

theorem opensArchive_staleTree : OpensArchive staleTree "/out/m.zip" "/out/.tmp000000"
    (staleTree.put ["out", ".tmp000000"] (.unfinished [])) :=
  ⟨⟨staleTree, by decide, by decide⟩, by decide⟩

/-- A writer that is opened, written to and closed, with a name that comes again, a write after
the end and a second end. -/
def busyOperations : List Operation :=
  [.openArchive, .write "a.php" "1", .write "a.php" "2", .accept (.snapshot "s"), .close,
    .write "b.php" "3", .close]

/-- The file is replaced by the archive with the two entries that were taken. -/
theorem performAll_new_staleTree :
    OpensArchive staleTree "/out/m.zip" "/out/.tmp000000"
        (staleTree.put ["out", ".tmp000000"] (.unfinished [])) ∧
      (Path.parts "/out/m.zip").getLast? ≠ (Path.parts "/out/.tmp000000").getLast? ∧
      ∃ log writer current,
        (performAll (m := StateM FileTree) busyOperations (.new "/out/m.zip")).run staleTree =
            ((log, writer), current) ∧
          current.readArchive "/out/m.zip" =
            .ok [.ofEntry "a.php" "1", .ofEntry snapshotName "s"] := by
  have hname : (Path.parts "/out/m.zip").getLast? ≠ (Path.parts "/out/.tmp000000").getLast? := by
    decide
  obtain ⟨place, -, hperform⟩ := performAll_new opensArchive_staleTree hname
  obtain ⟨log, writer, current, hrun, hrecorded⟩ := hperform busyOperations
  refine ⟨opensArchive_staleTree, hname, log, writer, current, hrun, ?_⟩
  -- What the run has recorded is computed. That it is in the archive is the theorem.
  have hentries : Log.entries ((performAll (m := StateM FileTree) busyOperations
      (.new "/out/m.zip")).run staleTree).1.1 = [("a.php", "1"), (snapshotName, "s")] := by
    decide
  rw [hrun] at hentries
  rw [(hrecorded.placed (by decide)).2, hentries]
  rfl

end SchemaMigration.ArchiveWriter
