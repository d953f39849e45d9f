import SchemaMigration.Proofs.Archive.Site

/-!
# `SchemaMigration.Proofs.Archive.WriterSteps`: what one operation does to a writer

A writer is opened, written to and closed. At a site for its archive there are only three
ways in which it stands (`Standing`): nothing has happened yet, a temporary file lies
beside the target, or the archive is at the target.

`Performed` says what an operation does to each of them. There is one lemma for each way
in which an operation can go, and `exists_performed` finds the one that applies.
-/

set_option autoImplicit false

namespace SchemaMigration

namespace ArchiveWriter

/-! ### Operations -/

/-- What can be asked of a writer. -/
inductive Operation where
  | openArchive
  | write (name text : String)
  | accept (artifact : Artifact)
  | close
  deriving DecidableEq

/-- Operations and what they were answered. -/
abbrev Log := List (Operation × Except Error Unit)

variable {m : Type → Type} [Monad m] [Storage m]

/-- Opens a writer. When that fails the writer stays as it is. -/
def reopen (writer : ArchiveWriter) : m (Except Error Unit × ArchiveWriter) := do
  match ← (writer.openArchive (m := m)).run with
  | .ok next => return (.ok (), next)
  | .error error => return (.error error, writer)

namespace Operation

/-- The entry that an operation asks for. -/
def entry? : Operation → Option (String × String)
  | .openArchive => none
  | .write name text => some (name, text)
  | .accept artifact => some artifact.toEntry
  | .close => none

/-- Asks a writer for an operation. -/
def perform (operation : Operation) (writer : ArchiveWriter) :
    m (Except Error Unit × ArchiveWriter) :=
  match operation with
  | .openArchive => writer.reopen
  | .write name text => writer.write name text
  | .accept artifact => writer.accept artifact
  | .close => do
    let (result, writer) ← writer.close
    return (result.map fun _ => (), writer)

end Operation

/-- Asks a writer for one operation after the other. -/
def performAll : List Operation → ArchiveWriter → m (Log × ArchiveWriter)
  | [], writer => return ([], writer)
  | operation :: rest, writer => do
    let (answer, writer) ← operation.perform writer
    let (log, writer) ← performAll rest writer
    return ((operation, answer) :: log, writer)

/-- The entries of the writes that succeeded, in order. -/
def Log.entries (log : Log) : ArchiveEntries :=
  log.filterMap fun (operation, answer) => if answer.isOk then operation.entry? else none

theorem Log.entries_append (log more : Log) :
    Log.entries (log ++ more) = log.entries ++ more.entries :=
  List.filterMap_append

variable {tree current : FileTree} {target : String} {site : ArchiveSite tree target}
  {writer : ArchiveWriter} {closed : Bool} {entries : ArchiveEntries}

/-! ### Runs of single operations -/

section Run

variable {σ : Type} [Storage (StateM σ)] {s after : σ}

theorem run_reopen {result : Except Error ArchiveWriter}
    (h : (writer.openArchive (m := StateM σ)).run.run s = (result, after)) :
    (writer.reopen (m := StateM σ)).run s =
      ((result.map fun _ => (), result.toOption.getD writer), after) := by
  rw [reopen, StateT.run_bind, h]
  cases result <;> rfl

theorem run_close {answer : Except Error String} {next : ArchiveWriter}
    (h : (writer.close (m := StateM σ)).run s = ((answer, next), after)) :
    (Operation.close.perform (m := StateM σ) writer).run s =
      ((answer.map fun _ => (), next), after) := by
  show ((writer.close (m := StateM σ)) >>= fun result =>
    pure (result.1.map fun _ => (), result.2)).run s = _
  rw [StateT.run_bind, h]
  rfl

/-- The other operations are performed in the storage that the first one leaves. -/
theorem run_performAll_cons {operation : Operation} {rest : List Operation}
    {answer : Except Error Unit} {next final : ArchiveWriter} {between : σ} {log : Log}
    (hfirst : (operation.perform (m := StateM σ) writer).run s = ((answer, next), between))
    (hrest : (performAll (m := StateM σ) rest next).run between = ((log, final), after)) :
    (performAll (m := StateM σ) (operation :: rest) writer).run s =
      (((operation, answer) :: log, final), after) := by
  show ((operation.perform (m := StateM σ) writer) >>= fun first =>
    performAll rest first.2 >>= fun others =>
      pure ((operation, first.1) :: others.1, others.2)).run s = _
  rw [StateT.run_bind, hfirst]
  show ((performAll (m := StateM σ) rest next) >>= fun others =>
    pure ((operation, answer) :: others.1, others.2)).run between = _
  rw [StateT.run_bind, hrest]
  rfl

end Run

/-! ### The three ways in which a writer stands -/

/-- How a writer with these entries stands in the tree, and whether it has been closed. -/
inductive Standing (site : ArchiveSite tree target) :
    Bool → ArchiveEntries → ArchiveWriter → FileTree → Prop where
  | idle : Standing site false [] (.new target) tree
  | opened {entries : ArchiveEntries} {current : FileTree} (holds : site.Holds entries current) :
    Standing site false entries ⟨target, .open site.temporary, entries.map Prod.fst⟩ current
  | closed (entries : ArchiveEntries) :
    Standing site true entries ⟨target, .closed, entries.map Prod.fst⟩ (site.placed entries)

namespace Standing

section

variable (h : Standing site closed entries writer current)

include h

theorem target_eq : writer.target = target := by
  cases h <;> rfl

theorem isClosed_eq : writer.isClosed = closed := by
  cases h <;> rfl

/-- The writer has the names of its entries. -/
theorem names_eq : writer.names = entries.map Prod.fst := by
  cases h <;> rfl

end

section

variable (h : Standing site false entries writer current)

include h

/-- Opening a writer that is not closed leaves it open, with the entries that it has. -/
theorem exists_openArchive : ∃ after,
    (writer.openArchive (m := StateM FileTree)).run.run current =
        (.ok ⟨target, .open site.temporary, entries.map Prod.fst⟩, after) ∧
      site.Holds entries after := by
  cases h with
  | idle => exact ⟨site.opened, openArchive_of_idle rfl site.opens, site.begins⟩
  | opened holds => exact ⟨current, rfl, holds⟩

/-- A new name is written, and the writer is open from then on. -/
theorem exists_write {name : String} (hnew : name ∉ entries.map Prod.fst) (text : String) :
    ∃ after, (writer.write (m := StateM FileTree) name text).run current =
        ((.ok (), ⟨target, .open site.temporary, (entries ++ [(name, text)]).map Prod.fst⟩),
          after) ∧
      site.Holds (entries ++ [(name, text)]) after := by
  obtain ⟨opened, hopen, hopened⟩ := h.exists_openArchive
  obtain ⟨after, hadd, hafter⟩ := hopened.addEntry_eq hnew text
  refine ⟨after, ?_, hafter⟩
  rw [run_write_of_new h.isClosed_eq (h.names_eq ▸ hnew) hopen,
    run_add_of_ok ((FileTree.run_addEntry _ _ _ opened).trans hadd), List.map_append]
  rfl

/-- Closing a writer that is not closed puts its entries at the target. -/
theorem close_eq :
    (writer.close (m := StateM FileTree)).run current =
      ((.ok target, ⟨target, .closed, entries.map Prod.fst⟩), site.placed entries) := by
  have hclose {opened : FileTree} (hopened : site.Holds entries opened) :
      (close (m := StateM FileTree) ⟨target, .open site.temporary, entries.map Prod.fst⟩).run
          opened =
        ((.ok target, ⟨target, .closed, entries.map Prod.fst⟩), site.placed entries) :=
    run_close_of_open ((FileTree.run_placeArchive _ _ opened).trans hopened.placeArchive_eq)
  obtain ⟨opened, hopen, hopened⟩ := h.exists_openArchive
  cases h with
  | idle => rw [run_close_of_idle rfl hopen, hclose hopened]
  | opened holds => exact hclose holds

end

/-- A writer takes in artifacts with new and distinct paths, one after the other. -/
theorem exists_offer {files kept : List Artifact}
    (h : Standing site false (kept.map Artifact.toEntry) writer current)
    (hnodup : ((kept ++ files).map (·.path)).Nodup) :
    ∃ next after, (Production.offer (m := StateM FileTree) accept writer files).run current =
        ((next, .ok ()), after) ∧
      Standing site false ((kept ++ files).map Artifact.toEntry) next after := by
  induction files generalizing kept writer current with
  | nil => exact ⟨writer, current, rfl, by rwa [List.append_nil]⟩
  | cons file rest ih =>
    -- The first path is none of those before it.
    have hnew : file.path ∉ (kept.map Artifact.toEntry).map Prod.fst := by
      rw [List.map_append, List.map_cons, List.nodup_append] at hnodup
      rw [Artifact.map_fst_toEntry]
      intro hmem
      exact hnodup.2.2 file.path hmem file.path List.mem_cons_self rfl
    rw [List.append_cons] at hnodup ⊢
    obtain ⟨between, hwrite, hholds⟩ := h.exists_write hnew file.content
    have hkept : (kept ++ [file]).map Artifact.toEntry =
        kept.map Artifact.toEntry ++ [(file.path, file.content)] := List.map_append
    rw [← hkept] at hwrite hholds
    obtain ⟨next, after, hrest, hstanding⟩ := ih (.opened hholds) hnodup
    exact ⟨next, after, (run_offer_of_ok hwrite rest).trans hrest, hstanding⟩

end Standing

/-! ### What one operation does -/

namespace Operation

theorem ne_close_of_entry {operation : Operation} {entry : String × String}
    (h : operation.entry? = some entry) : operation ≠ .close := by
  rintro rfl
  cases h

/-- Taking in an artifact is writing its entry. -/
theorem perform_of_entry {operation : Operation} {name text : String}
    (h : operation.entry? = some (name, text)) (writer : ArchiveWriter) :
    operation.perform (m := m) writer = writer.write name text := by
  cases operation with
  | openArchive => cases h
  | write => cases h; rfl
  | accept => cases h; rfl
  | close => cases h

/-- What a writer answers: a closed one is neither opened nor written to, and no name is
written twice. -/
def answer (closed : Bool) (writer : ArchiveWriter) (operation : Operation) :
    Except Error Unit :=
  if operation = .close then .ok ()
  else if closed then .error (.archiveClosed writer.target)
  else
    match operation.entry? with
    | none => .ok ()
    | some (name, _) =>
      if name ∈ writer.names then .error (.duplicateArtifact name .inArchive) else .ok ()

/-- Only a new name is written. -/
theorem not_mem_of_answer {operation : Operation} {entry : String × String}
    (hok : (operation.answer closed writer).isOk) (hentry : operation.entry? = some entry) :
    entry.1 ∉ writer.names := by
  intro hmem
  have hclose := operation.ne_close_of_entry hentry
  rw [answer, if_neg hclose] at hok
  split at hok
  · cases hok
  · simp [hentry, hmem, Except.isOk, Except.toBool] at hok

/-- The entry that an operation adds, when it succeeds. -/
def added (operation : Operation) (answer : Except Error Unit) : ArchiveEntries :=
  (if answer.isOk then operation.entry? else none).toList

theorem added_of_error (operation : Operation) (error : Error) :
    operation.added (.error error) = [] := rfl

theorem added_of_ok {operation : Operation} {entry : String × String}
    (hentry : operation.entry? = some entry) : operation.added (.ok ()) = [entry] := by
  simp [added, hentry, Except.isOk, Except.toBool]

theorem added_of_none {operation : Operation} (hentry : operation.entry? = none)
    (answer : Except Error Unit) : operation.added answer = [] := by
  simp [added, hentry]

end Operation

/-- An operation adds its entry, if it has one and has succeeded. -/
theorem Log.entries_singleton (operation : Operation) (answer : Except Error Unit) :
    Log.entries [(operation, answer)] = operation.added answer := by
  rw [entries, List.filterMap_cons, Operation.added]
  split
  · next hnone => simp [hnone]
  · next hsome => simp [hsome]

/-- What one operation does to a writer: its answer, how the writer stands afterwards, with the
entry that is added when it succeeds, and that nothing changes when it fails or the writer is
closed. -/
structure Performed (site : ArchiveSite tree target) (closed : Bool) (operation : Operation)
    (entries : ArchiveEntries) (writer : ArchiveWriter) (current : FileTree)
    (next : ArchiveWriter) (after : FileTree) : Prop where
  run_eq : (operation.perform (m := StateM FileTree) writer).run current =
    ((operation.answer closed writer, next), after)
  standing : Standing site (closed || decide (operation = .close))
    (entries ++ operation.added (operation.answer closed writer)) next after
  unchanged : (operation.answer closed writer).isOk = false ∨ closed = true →
    next = writer ∧ after = current

namespace Standing

variable {operation : Operation} {name text : String}

/-- A closed writer and its tree stay as they are. -/
theorem performed_of_closed (h : Standing site true entries writer current)
    (operation : Operation) :
    Performed site true operation entries writer current writer current where
  run_eq := by
    cases h with
    | closed entries => cases operation <;> rfl
  standing := by
    have hnone : operation.added (operation.answer true writer) = [] := by
      cases operation <;> rfl
    rwa [hnone, List.append_nil]
  unchanged := fun _ => ⟨rfl, rfl⟩

variable (h : Standing site false entries writer current)

include h

/-- A name that the writer has is refused. -/
theorem performed_of_mem (hentry : operation.entry? = some (name, text))
    (hmem : name ∈ writer.names) :
    Performed site false operation entries writer current writer current := by
  have hclose := operation.ne_close_of_entry hentry
  have hanswer : operation.answer false writer = .error (.duplicateArtifact name .inArchive) := by
    simp [Operation.answer, hclose, hentry, hmem]
  exact {
    run_eq := by
      rw [hanswer, operation.perform_of_entry hentry, run_write_of_mem h.isClosed_eq hmem]
    standing := by
      rw [hanswer, Operation.added_of_error, List.append_nil, decide_eq_false hclose]
      exact h
    unchanged := fun _ => ⟨rfl, rfl⟩ }

/-- A new name is written. -/
theorem performed_of_not_mem (hentry : operation.entry? = some (name, text))
    (hnew : name ∉ writer.names) :
    ∃ next after, Performed site false operation entries writer current next after := by
  have hclose := operation.ne_close_of_entry hentry
  have hanswer : operation.answer false writer = .ok () := by
    simp [Operation.answer, hclose, hentry, hnew]
  obtain ⟨after, hwrite, hholds⟩ := h.exists_write (h.names_eq ▸ hnew) text
  exact ⟨_, after, {
    run_eq := by rw [hanswer, operation.perform_of_entry hentry, hwrite]
    standing := by
      rw [hanswer, Operation.added_of_ok hentry, decide_eq_false hclose]
      exact .opened hholds
    unchanged := by simp [hanswer, Except.isOk, Except.toBool] }⟩

/-- A writer that is not closed is opened. -/
theorem performed_openArchive :
    ∃ next after, Performed site false .openArchive entries writer current next after := by
  obtain ⟨after, hopen, hholds⟩ := h.exists_openArchive
  exact ⟨_, after, {
    run_eq := run_reopen hopen
    standing := by
      rw [Operation.added_of_none rfl, List.append_nil]
      exact .opened hholds
    unchanged := by simp [Operation.answer, Operation.entry?, Except.isOk, Except.toBool] }⟩

/-- A writer that is not closed is closed. -/
theorem performed_close :
    Performed site false .close entries writer current
      ⟨target, .closed, entries.map Prod.fst⟩ (site.placed entries) where
  run_eq := run_close h.close_eq
  standing := by
    rw [Operation.added_of_none rfl, List.append_nil]
    exact .closed entries
  unchanged := by simp [Operation.answer, Except.isOk, Except.toBool]

omit h in
/-- Every operation is answered, and leaves the writer in one of the three ways. -/
theorem exists_performed (h : Standing site closed entries writer current)
    (operation : Operation) :
    ∃ next after, Performed site closed operation entries writer current next after := by
  cases closed with
  | true => exact ⟨_, _, h.performed_of_closed operation⟩
  | false =>
    -- A write and the taking in of an artifact differ in nothing but where the entry is from.
    cases hentry : operation.entry? with
    | some entry =>
      by_cases hmem : entry.1 ∈ writer.names
      · exact ⟨_, _, h.performed_of_mem hentry hmem⟩
      · exact h.performed_of_not_mem hentry hmem
    | none =>
      cases operation with
      | write | accept => cases hentry
      | openArchive => exact h.performed_openArchive
      | close => exact ⟨_, _, h.performed_close⟩

end Standing

end ArchiveWriter

end SchemaMigration
