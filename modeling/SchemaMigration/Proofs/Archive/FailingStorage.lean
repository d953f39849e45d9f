import SchemaMigration.Proofs.Archive.WriterSteps
import SchemaMigration.Proofs.Storage.Fallible

/-!
# `SchemaMigration.Proofs.Archive.FailingStorage`: a writer whose storage fails

Storage may fail at any operation. A writer then stands in one of five ways (`Situation`):
nothing has been opened, a temporary file lies there, that file is gone again, the archive is
at the target, or the archive is lost. It is lost when it could not be put in place. The writer
has been closed by then, and its temporary file is gone.

`Situation.openArchive`, `Situation.exists_write` and `Situation.exists_closing` are the steps
between them, one for each operation of a writer, and `Situation.performAll` is any number of
steps. Before the archive is in place, and when it is lost, the files are those from before with
some directories more, and the temporary file while there is one.

An entry whose write has failed in the storage is none of the writer's, but it may be in the
archive all the same, with a part of its text (`Leaves`). So the archive has what the operations
have left in it, one after the other (`Packed`), and these are the entries of the writer when no
write has failed in that way.

A writer does not know whether its archive is lost. It answers a close as it does when the
archive is in place, so a close says nothing about the target after an earlier one that failed
and left the writer closed (`close_performAll`, `close_ok_without_archive`).
-/

set_option autoImplicit false

namespace SchemaMigration.ArchiveWriter

open SchemaMigration.Outcome (ok_ne_error)
open FileTree (AddsDirectories)

variable {start current : FileTree} {target temporary : String} {lost : Bool}
  {members : List ArchiveMember} {writer : ArchiveWriter} {names : List String}

/-! ### What is in the archive -/

/-- Whether an operation has failed in the storage. -/
def failsInStorage : Except Error Unit → Bool
  | .error (.archiveStorage _ _) => true
  | _ => false

/-- What an operation leaves in the archive with the answer that it gets. -/
inductive Leaves (operation : Operation) (answer : Except Error Unit) :
    List ArchiveMember → Prop where
  /-- The entry that is added when it succeeds. -/
  | added : Leaves operation answer (ArchiveMember.ofEntries (operation.added answer))
  /-- An entry of that name, whatever there is of its text, when the storage has failed. -/
  | cutOff {name text : String} (hentry : operation.entry? = some (name, text))
      (hfails : failsInStorage answer = true) (member : ArchiveMember)
      (hname : member.name = name) : Leaves operation answer [member]

/-- An operation that has not failed in the storage leaves what it adds. -/
theorem Leaves.eq_ofEntries {operation : Operation} {answer : Except Error Unit}
    (h : Leaves operation answer members) (hsound : failsInStorage answer = false) :
    members = ArchiveMember.ofEntries (operation.added answer) := by
  cases h with
  | added => rfl
  | cutOff _ hfails =>
    rw [hsound] at hfails
    cases hfails

/-- What the operations of a log leave in the archive, one after the other. -/
inductive Packed : Log → List ArchiveMember → Prop where
  | nil : Packed [] []
  | cons {operation : Operation} {answer : Except Error Unit} {log : Log}
      {part members : List ArchiveMember} (leaves : Leaves operation answer part)
      (rest : Packed log members) : Packed ((operation, answer) :: log) (part ++ members)

namespace Packed

variable {log : Log}

theorem entries_cons (operation : Operation) (answer : Except Error Unit) (log : Log) :
    Log.entries ((operation, answer) :: log) = operation.added answer ++ log.entries := by
  rw [← List.singleton_append, Log.entries_append, Log.entries_singleton]

/-- The entries of the writes that succeeded are in the archive, in order. -/
theorem sublist (h : Packed log members) :
    List.Sublist (ArchiveMember.ofEntries log.entries) members := by
  induction h with
  | nil => exact List.Sublist.refl _
  | @cons operation answer _ _ _ leaves rest ih =>
    rw [entries_cons, ArchiveMember.ofEntries_append]
    refine List.Sublist.append ?_ ih
    cases leaves with
    | added => exact List.Sublist.refl _
    | cutOff _ hfails =>
      -- The operation has failed, so it has added nothing.
      cases answer with
      | ok _ => cases hfails
      | error error => exact List.nil_sublist _

/-- They are all that is in it when no write has failed in the storage. -/
theorem eq_ofEntries (h : Packed log members)
    (hsound : ∀ operation answer, (operation, answer) ∈ log → operation.entry? ≠ none →
      failsInStorage answer = false) : members = ArchiveMember.ofEntries log.entries := by
  induction h with
  | nil => rfl
  | cons leaves rest ih =>
    rw [entries_cons, ArchiveMember.ofEntries_append,
      ← ih fun other told hmem => hsound other told (List.mem_cons_of_mem _ hmem)]
    -- Only an operation that brings an entry can leave another one.
    cases leaves with
    | added => rfl
    | cutOff hentry hfails =>
      rw [hsound _ _ List.mem_cons_self (by simp [hentry])] at hfails
      cases hfails

end Packed

/-! ### The five ways in which a writer stands -/

/-- How a writer and the files are when operations may have failed, whether the archive is lost,
and what has been left in it. `start` are the files from before. -/
inductive Situation (start : FileTree) (target : String) :
    Bool → List ArchiveMember → ArchiveWriter → FileTree → Prop where
  | idle {current : FileTree} (adds : AddsDirectories start current) :
    Situation start target false [] (.new target) current
  | opened {made current : FileTree} {temporary : String} {members : List ArchiveMember}
      (adds : AddsDirectories start made)
      (hopened : made.AddsTemporary temporary members current) (names : List String) :
    Situation start target false members ⟨target, .open temporary, names⟩ current
  | gone {current : FileTree} {temporary : String} {aside : List String}
      (adds : AddsDirectories start current) (hvacant : current.Vacant temporary aside)
      (members : List ArchiveMember) (names : List String) :
    Situation start target false members ⟨target, .open temporary, names⟩ current
  | placed {made current : FileTree} {place : List String} (adds : AddsDirectories start made)
      (hplace : made.writable target = .ok place) (members : List ArchiveMember)
      (names : List String) (hplaced : current = made.put place (.archive members)) :
    Situation start target false members ⟨target, .closed, names⟩ current
  | lost {current : FileTree} (adds : AddsDirectories start current)
      (members : List ArchiveMember) (names : List String) :
    Situation start target true members ⟨target, .closed, names⟩ current

namespace Situation

theorem target_eq (h : Situation start target lost members writer current) :
    writer.target = target := by
  cases h <;> rfl

/-- Where an archive is lost there are no files but those from before. -/
theorem adds_of_lost (h : Situation start target true members writer current) :
    AddsDirectories start current := by
  cases h with
  | lost adds => exact adds

theorem isClosed_of_lost (h : Situation start target true members writer current) :
    writer.isClosed = true := by
  cases h with
  | lost => rfl

/-- Before anything is opened there are no files but those from before. -/
theorem adds_of_idle (h : Situation start target lost members writer current)
    (hidle : writer.state = .idle) : AddsDirectories start current := by
  cases h with
  | idle adds => exact adds
  | opened | gone | placed | lost => cases hidle

/-- Nor are there any when the temporary file of an open writer is deleted. -/
theorem adds_of_open
    (h : Situation start target lost members ⟨target, .open temporary, names⟩ current) :
    AddsDirectories start (current.discardTemporary temporary) := by
  cases h with
  | opened adds hopened => rwa [hopened.discardTemporary_eq]
  | gone adds hvacant => rwa [hvacant.discardTemporary_eq]

/-- A closed writer has its archive at the target, unless it is lost. -/
theorem exists_place (h : Situation start target false members writer current)
    (hclosed : writer.isClosed = true) :
    ∃ made place, AddsDirectories start made ∧ made.writable target = .ok place ∧
      current = made.put place (.archive members) := by
  cases h with
  | idle | opened | gone => cases hclosed
  | placed adds hplace _ _ hplaced => exact ⟨_, _, adds, hplace, hplaced⟩

theorem readArchive_eq (h : Situation start target false members writer current)
    (hclosed : writer.isClosed = true) : current.readArchive target = .ok members := by
  obtain ⟨made, place, -, hplace, rfl⟩ := h.exists_place hclosed
  exact FileTree.readArchive_put hplace

/-- An entry that is added to the archive of an open writer is the last one there. -/
theorem addEntry {after : FileTree} {name text : String}
    (h : Situation start target lost members ⟨target, .open temporary, names⟩ current)
    (hadd : current.addEntry temporary name text = (.ok (), after)) :
    Situation start target lost (members ++ [.ofEntry name text])
      ⟨target, .open temporary, names ++ [name]⟩ after := by
  obtain ⟨aside, packed, hpacked, rfl⟩ := FileTree.addEntry_eq_ok hadd
  cases h with
  | opened adds hopened => exact .opened adds (hopened.addMember _) _
  | gone adds hvacant =>
    -- There is no archive to add anything to.
    rw [hvacant.packed?_eq] at hpacked
    cases hpacked

/-- One that cannot be added may be there all the same, or the archive is gone. -/
theorem exists_leaves {after : FileTree} {operation : Operation} {name text : String}
    (h : Situation start target lost members ⟨target, .open temporary, names⟩ current)
    (hentry : operation.entry? = some (name, text))
    (hspoils : current.SpoilsEntry temporary name after) (reason : String) :
    ∃ part, Leaves operation (.error (.archiveStorage target reason)) part ∧
      Situation start target lost (members ++ part) ⟨target, .open temporary, names⟩ after := by
  have hnothing (hleft : Situation start target lost members ⟨target, .open temporary, names⟩
      after) : ∃ part, Leaves operation (.error (.archiveStorage target reason)) part ∧
        Situation start target lost (members ++ part) ⟨target, .open temporary, names⟩ after := by
    refine ⟨_, .added, ?_⟩
    show Situation start target lost (members ++ []) ⟨target, .open temporary, names⟩ after
    rwa [List.append_nil]
  cases h with
  | opened adds hopened =>
    rcases hspoils with rfl | ⟨member, hname, rfl⟩ | rfl
    · exact hnothing (.opened adds hopened names)
    · exact ⟨[member], .cutOff hentry rfl member hname,
        .opened adds (hopened.addMember member) names⟩
    · refine hnothing ?_
      rw [hopened.discardTemporary_eq]
      obtain ⟨aside, hvacant, -⟩ := hopened
      exact .gone adds hvacant members names
  | gone adds hvacant =>
    -- Whatever the storage has tried to leave, there is no archive for it.
    refine hnothing ?_
    have hsame : after = current := by
      rcases hspoils with hsame | ⟨member, -, hadded⟩ | hdiscarded
      · exact hsame
      · rw [hadded, FileTree.addMember, hvacant.packed?_eq]
      · rw [hdiscarded, hvacant.discardTemporary_eq]
    rw [hsame]
    exact .gone adds hvacant members names

end Situation

/-! ### What one operation comes to -/

variable {σ : Type} [Storage (StateM σ)] {files : σ → FileTree} {s : σ}

/-- Whether an operation is a close that has failed and has left the writer closed. -/
def losing {α : Type} (answer : Except Error α) (next : ArchiveWriter) : Bool :=
  !answer.isOk && next.isClosed

/-- Whether an operation loses the archive. -/
def Operation.loses (operation : Operation) (answer : Except Error Unit) (next : ArchiveWriter) :
    Bool :=
  decide (operation = .close) && losing answer next

/-- What comes of an attempt to open a writer: it fails and the writer stays as it is, or the
writer is open. -/
inductive Opened (start : FileTree) (target : String) (lost : Bool) (members : List ArchiveMember)
    (writer : ArchiveWriter) : Except Error ArchiveWriter → FileTree → Prop where
  | failed {current : FileTree} (error : Error)
      (situation : Situation start target lost members writer current) :
    Opened start target lost members writer (.error error) current
  | done {current : FileTree} {temporary : String}
      (situation : Situation start target lost members ⟨target, .open temporary, writer.names⟩
        current) :
    Opened start target lost members writer (.ok ⟨target, .open temporary, writer.names⟩) current

/-- What comes of an operation: the name that is added when it succeeds, what it leaves in the
archive, and how the writer stands then. -/
structure Answered (start : FileTree) (target : String) (lost : Bool)
    (members : List ArchiveMember) (operation : Operation) (writer : ArchiveWriter)
    (answer : Except Error Unit) (next : ArchiveWriter) (current : FileTree) : Prop where
  names_eq : next.names = writer.names ++ (operation.added answer).map Prod.fst
  situation : ∃ part, Leaves operation answer part ∧
    Situation start target (lost || operation.loses answer next) (members ++ part) next current

/-- An operation that adds nothing may leave the writer as it stands. -/
theorem Answered.of_nothing {operation : Operation} {answer : Except Error Unit}
    {next : ArchiveWriter} (hnothing : operation.added answer = [])
    (hkept : operation.loses answer next = false) (hnames : next.names = writer.names)
    (situation : Situation start target lost members next current) :
    Answered start target lost members operation writer answer next current where
  names_eq := by rw [hnothing, hnames, List.map_nil, List.append_nil]
  situation := by
    refine ⟨_, .added, ?_⟩
    rw [hnothing, hkept, Bool.or_false]
    show Situation start target lost (members ++ []) next current
    rwa [List.append_nil]

/-- What comes of a close: its answer, the writer and the storage after it. -/
structure Closing (files : σ → FileTree) (start : FileTree) (target : String) (lost : Bool)
    (members : List ArchiveMember) (writer : ArchiveWriter) (s : σ) (answer : Except Error String)
    (next : ArchiveWriter) (after : σ) : Prop where
  names_eq : next.names = writer.names
  closed : ∀ path, answer = .ok path → path = target ∧ next.isClosed = true
  failed : ∀ error, answer = .error error → AddsDirectories start (files after)
  situation : Situation start target (lost || losing answer next) members next (files after)
  /-- A closed writer answers that all is well, and does nothing. -/
  settled : writer.isClosed = true → answer = .ok target ∧ next = writer ∧ after = s

namespace Operation

/-- Only a close can lose an archive. -/
theorem loses_of_entry {operation : Operation} {entry : String × String}
    (hentry : operation.entry? = some entry) (answer : Except Error Unit) (next : ArchiveWriter) :
    operation.loses answer next = false := by
  rw [loses, decide_eq_false (operation.ne_close_of_entry hentry), Bool.false_and]

end Operation

namespace Situation

variable (hfallible : Storage.Fallible files)

include hfallible

/-- A writer is opened or stays as it is. -/
theorem openArchive (h : Situation start target lost members writer (files s)) :
    Opened start target lost members writer
      ((writer.openArchive (m := StateM σ)).run.run s).1
      (files ((writer.openArchive (m := StateM σ)).run.run s).2) := by
  -- The files are an index of the situation, and are named so that its cases can be told.
  have hsituation := h
  generalize hcurrent : files s = current at h
  cases h with
  | idle adds =>
    subst hcurrent
    unfold ArchiveWriter.openArchive
    dsimp only [new]
    rcases hmake : (Storage.makeDirectories (Path.parent target) : StateM σ _).run s with
      ⟨made, between⟩
    have hadds := hfallible.makeDirectories (Path.parent target) s
    rw [hmake] at hadds
    have hbetween := adds.trans hadds
    cases made with
    | error reason =>
      rw [run_bind_of_error (run_attempt hmake _)]
      exact .failed _ (.idle hbetween)
    | ok _ =>
      rw [run_bind_of_ok (run_attempt hmake _)]
      rcases hopen : (Storage.openTemporary (Path.parent target) : StateM σ _).run between with
        ⟨opened, after⟩
      cases opened with
      | error reason =>
        rw [run_bind_of_error (run_attempt hopen _)]
        refine .failed _ (.idle ?_)
        rwa [hfallible.openTemporary_error _ _ _ _ hopen]
      | ok temporary =>
        rw [run_bind_of_ok (run_attempt hopen _)]
        exact .done (.opened hbetween (hfallible.openTemporary_ok _ _ _ _ hopen) [])
  | opened | gone => exact .done hsituation
  | placed | lost => exact .failed _ hsituation

/-- An open writer stays open when it is asked to add an entry. -/
theorem exists_add
    (h : Situation start target lost members ⟨target, .open temporary, names⟩ (files s))
    {operation : Operation} {name text : String}
    (hentry : operation.entry? = some (name, text)) : ∃ answer next after,
      (add (m := StateM σ) ⟨target, .open temporary, names⟩ name text).run s =
          ((answer, next), after) ∧
        next.isClosed = false ∧
        Answered start target lost members operation ⟨target, .open temporary, names⟩ answer next
          (files after) := by
  have hkept := operation.loses_of_entry hentry
  rcases hadd : (Storage.addEntry temporary name text : StateM σ _).run s with ⟨result, after⟩
  cases result with
  | ok _ =>
    have hsituation := h.addEntry (hfallible.addEntry_ok _ _ _ _ _ hadd)
    refine ⟨_, _, after, run_add_of_ok hadd, rfl, ?_, _, .added, ?_⟩
    · rw [Operation.added_of_ok hentry]
      rfl
    · rw [hkept, Operation.added_of_ok hentry, Bool.or_false]
      exact hsituation
  | error reason =>
    obtain ⟨part, hleaves, hsituation⟩ :=
      h.exists_leaves hentry (hfallible.addEntry_error _ _ _ _ _ _ hadd) reason
    refine ⟨_, _, after, run_add_of_error hadd, rfl, (List.append_nil _).symm, part, hleaves, ?_⟩
    rwa [hkept, Bool.or_false]

/-- A name is written, or is not and the writer has the names that it had. A writer is not closed
by that. -/
theorem exists_write (h : Situation start target lost members writer (files s))
    {operation : Operation} {name text : String}
    (hentry : operation.entry? = some (name, text)) : ∃ answer next after,
      (writer.write (m := StateM σ) name text).run s = ((answer, next), after) ∧
        next.isClosed = writer.isClosed ∧
        Answered start target lost members operation writer answer next (files after) := by
  have hkept := operation.loses_of_entry hentry
  cases hclosed : writer.isClosed with
  | true =>
    exact ⟨_, _, _, run_write_of_closed hclosed name text s, hclosed,
      .of_nothing rfl (hkept _ _) rfl h⟩
  | false =>
    by_cases hmem : name ∈ writer.names
    · exact ⟨_, _, _, run_write_of_mem hclosed hmem text s, hclosed,
        .of_nothing rfl (hkept _ _) rfl h⟩
    -- A new name makes the writer open its archive.
    rcases hopen : (writer.openArchive (m := StateM σ)).run.run s with ⟨result, between⟩
    have hopened := h.openArchive hfallible
    rw [hopen] at hopened
    generalize hcurrent : files between = current at hopened
    cases hopened with
    | failed error situation =>
      subst hcurrent
      exact ⟨_, _, _, run_write_of_error hclosed hmem hopen text, hclosed,
        .of_nothing rfl (hkept _ _) rfl situation⟩
    | done situation =>
      subst hcurrent
      obtain ⟨answer, next, after, hadd, hnext, hanswered⟩ := situation.exists_add hfallible hentry
      exact ⟨answer, next, after, (run_write_of_new hclosed hmem hopen text).trans hadd, hnext,
        hanswered.names_eq, hanswered.situation⟩

/-- An open writer is closed, with its archive in place or lost. -/
theorem exists_closing_of_open
    (h : Situation start target lost members ⟨target, .open temporary, names⟩ (files s)) :
    ∃ answer next after,
      (close (m := StateM σ) ⟨target, .open temporary, names⟩).run s = ((answer, next), after) ∧
        Closing files start target false members ⟨target, .open temporary, names⟩ s answer next
          after := by
  rcases hplace : (Storage.placeArchive temporary target : StateM σ _).run s with ⟨result, after⟩
  refine ⟨_, _, after, run_close_of_open hplace, ?_⟩
  -- The writer is closed by now, whether or not its archive can be put in place.
  cases result with
  | error reason =>
    have hadds : AddsDirectories start (files after) := by
      rw [hfallible.placeArchive_error _ _ _ _ _ hplace]
      exact h.adds_of_open
    exact {
      names_eq := rfl
      closed := nofun
      failed := fun _ _ => hadds
      situation := .lost hadds members names
      settled := nofun }
  | ok _ =>
    have hplaced := hfallible.placeArchive_ok _ _ _ _ hplace
    generalize files s = current at h hplaced
    have hsituation : Situation start target false members ⟨target, .closed, names⟩
        (files after) := by
      cases h with
      | opened adds hopened =>
        obtain ⟨place, hwritable, hafter⟩ := hopened.eq_of_placeArchive hplaced
        exact .placed adds hwritable members names hafter
      | gone adds hvacant =>
        -- There is no archive to put anywhere.
        obtain ⟨_, _, _, hpacked, -⟩ := FileTree.placeArchive_eq_ok hplaced
        rw [hvacant.packed?_eq] at hpacked
        cases hpacked
    exact {
      names_eq := rfl
      closed := fun path hpath => ⟨(Except.ok.inj hpath).symm, rfl⟩
      failed := fun _ herror => absurd herror ok_ne_error
      situation := hsituation
      settled := nofun }

omit hfallible in
/-- A closed writer stays as it is. -/
theorem exists_closing_of_closed (h : Situation start target lost members writer (files s))
    (hclosed : writer.isClosed = true) : ∃ answer next after,
      (writer.close (m := StateM σ)).run s = ((answer, next), after) ∧
        Closing files start target lost members writer s answer next after := by
  refine ⟨_, _, _, run_close_of_closed hclosed s, ?_⟩
  rw [h.target_eq]
  exact {
    names_eq := rfl
    closed := fun path hpath => ⟨(Except.ok.inj hpath).symm, hclosed⟩
    failed := fun _ herror => absurd herror ok_ne_error
    situation := by
      show Situation start target (lost || false) members writer (files s)
      rwa [Bool.or_false]
    settled := fun _ => ⟨rfl, rfl, rfl⟩ }

/-- A writer is closed, or stays as it is when it cannot be opened for that. -/
theorem exists_closing (h : Situation start target lost members writer (files s)) :
    ∃ answer next after,
      (writer.close (m := StateM σ)).run s = ((answer, next), after) ∧
        Closing files start target lost members writer s answer next after := by
  have hsituation := h
  generalize hcurrent : files s = current at h
  cases h with
  | idle adds =>
    -- The archive is opened for being closed. If that fails the writer is not closed.
    rcases hopen : ((new target).openArchive (m := StateM σ)).run.run s with ⟨result, between⟩
    have hopened := hsituation.openArchive hfallible
    rw [hopen] at hopened
    generalize hbetween : files between = left at hopened
    cases hopened with
    | failed error situation =>
      subst hbetween
      exact ⟨_, _, _, run_close_of_error rfl hopen, {
        names_eq := rfl
        closed := nofun
        failed := fun _ _ => situation.adds_of_idle rfl
        situation := situation
        settled := nofun }⟩
    | done situation =>
      subst hbetween
      obtain ⟨answer, next, final, hrun, hclosing⟩ :=
        situation.exists_closing_of_open hfallible
      exact ⟨answer, next, final, (run_close_of_idle rfl hopen).trans hrun, {
        names_eq := hclosing.names_eq
        closed := hclosing.closed
        failed := hclosing.failed
        situation := hclosing.situation
        settled := nofun }⟩
  | opened | gone => exact hsituation.exists_closing_of_open hfallible
  | placed | lost => exact exists_closing_of_closed hsituation rfl

end Situation

/-! ### Any number of operations -/

/-- Whether one of some operations loses the archive. -/
def losesArchive : List Operation → ArchiveWriter → σ → Bool
  | [], _, _ => false
  | operation :: rest, writer, s =>
    let ((answer, next), after) := (operation.perform (m := StateM σ) writer).run s
    operation.loses answer next || losesArchive rest next after

namespace Situation

variable (hfallible : Storage.Fallible files)

include hfallible

/-- Every operation is answered, and leaves the writer in one of the five ways. -/
theorem exists_answered (h : Situation start target lost members writer (files s))
    (operation : Operation) : ∃ answer next after,
      (operation.perform (m := StateM σ) writer).run s = ((answer, next), after) ∧
        Answered start target lost members operation writer answer next (files after) := by
  -- An operation that brings an entry is a write. Opening and closing bring none.
  cases hentry : operation.entry? with
  | some entry =>
    obtain ⟨name, text⟩ := entry
    obtain ⟨answer, next, after, hwrite, -, hanswered⟩ := h.exists_write hfallible hentry
    refine ⟨answer, next, after, ?_, hanswered⟩
    rw [operation.perform_of_entry hentry, hwrite]
  | none =>
    cases operation with
    | write | accept => cases hentry
    | openArchive =>
      rcases hopen : (writer.openArchive (m := StateM σ)).run.run s with ⟨result, after⟩
      have hopened := h.openArchive hfallible
      rw [hopen] at hopened
      refine ⟨_, _, after, run_reopen hopen, ?_⟩
      generalize files after = current at hopened ⊢
      cases hopened with
      | failed error situation => exact .of_nothing rfl rfl rfl situation
      | done situation => exact .of_nothing rfl rfl rfl situation
    | close =>
      obtain ⟨answer, next, after, hrun, hclosing⟩ := h.exists_closing hfallible
      refine ⟨_, next, after, run_close hrun, ?_, [], ?_, ?_⟩
      · rw [hclosing.names_eq, Operation.added_of_none rfl, List.map_nil, List.append_nil]
      · have hleaves : Leaves .close (answer.map fun _ => ()) _ := .added
        rwa [Operation.added_of_none rfl] at hleaves
      · have hloses : Operation.close.loses (answer.map fun _ => ()) next = losing answer next := by
          cases answer <;> rfl
        rw [hloses, List.append_nil]
        exact hclosing.situation

/-- So are any number of operations. The names are those of the writes that succeeded, and the
archive has what all of them have left in it. -/
theorem performAll (h : Situation start target lost members writer (files s))
    (operations : List Operation) : ∃ log next after,
      (ArchiveWriter.performAll (m := StateM σ) operations writer).run s = ((log, next), after) ∧
        log.map Prod.fst = operations ∧
        next.names = writer.names ++ log.entries.map Prod.fst ∧
        ∃ more, Packed log more ∧
          Situation start target (lost || losesArchive operations writer s) (members ++ more) next
            (files after) := by
  induction operations generalizing lost members writer s with
  | nil =>
    refine ⟨[], writer, s, rfl, rfl, (List.append_nil _).symm, [], .nil, ?_⟩
    rwa [losesArchive, Bool.or_false, List.append_nil]
  | cons operation rest ih =>
    -- The rest starts from a writer whose archive this operation may have lost.
    obtain ⟨answer, next, between, hfirst, hanswered⟩ := h.exists_answered hfallible operation
    obtain ⟨part, hleaves, hbetween⟩ := hanswered.situation
    obtain ⟨log, final, after, hrest, hoperations, hnames, more, hpacked, hsituation⟩ :=
      ih hbetween
    refine ⟨(operation, answer) :: log, final, after, run_performAll_cons hfirst hrest,
      by rw [List.map_cons, hoperations], ?_, part ++ more, .cons hleaves hpacked, ?_⟩
    · rw [hnames, hanswered.names_eq, Packed.entries_cons, List.map_append, List.append_assoc]
    · rw [losesArchive, hfirst]
      dsimp only
      rwa [← Bool.or_assoc, ← List.append_assoc]

end Situation

/-! ### What a close tells -/

/-- What the answer to a close tells after operations that may have failed. `lost` says whether
one of them has lost the archive. -/
structure Told (files : σ → FileTree) (start : FileTree) (target : String) (lost : Bool)
    (log : Log) (writer : ArchiveWriter) (current : σ) (answer : Except Error String)
    (next : ArchiveWriter) (after : σ) : Prop where
  /-- Closing leaves the names as they are. -/
  names_eq : next.names = writer.names
  /-- After a close that succeeds, an archive is at the target, unless it has been lost before. It
  has what the operations have left in it: the entries of the writer in their order, and nothing
  between them if no write has failed in the storage. -/
  complete : lost = false → ∀ path, answer = .ok path → path = target ∧ ∃ members,
    (files after).readArchive path = .ok members ∧ Packed log members ∧
      List.Sublist (ArchiveMember.ofEntries log.entries) members ∧
      ((∀ operation told, (operation, told) ∈ log → operation.entry? ≠ none →
          failsInStorage told = false) →
        members = ArchiveMember.ofEntries log.entries)
  /-- A close that fails leaves no file that was not there. -/
  failed : ∀ error, answer = .error error → AddsDirectories start (files after)
  /-- When the archive is lost a close succeeds all the same. It does nothing, and there are no
  files but those from before. -/
  hollow : lost = true → answer = .ok target ∧ next = writer ∧ after = current ∧
    AddsDirectories start (files after)

/-- Any operations on a new writer can be followed by a close, whatever fails on the way. When
that succeeds the whole archive is at the target, with the entries of the writes that
succeeded, and with those of no others unless a write has failed in the storage. The exception is
an earlier close that has failed and left the writer closed. From then on every close succeeds,
and the files are those from before. -/
theorem close_performAll (hfallible : Storage.Fallible files) (start : σ) (target : String)
    (operations : List Operation) : ∃ log writer current answer next after,
      (performAll (m := StateM σ) operations (.new target)).run start =
          ((log, writer), current) ∧
        log.map Prod.fst = operations ∧ writer.names = log.entries.map Prod.fst ∧
        (writer.close (m := StateM σ)).run current = ((answer, next), after) ∧
        Told files (files start) target (losesArchive operations (.new target) start) log writer
          current answer next after := by
  have hnew : Situation (files start) target false [] (.new target) (files start) :=
    .idle (.refl _)
  obtain ⟨log, writer, current, hrun, hoperations, hnames, members, hpacked, hsituation⟩ :=
    hnew.performAll hfallible operations
  rw [Bool.false_or, List.nil_append] at hsituation
  obtain ⟨answer, next, after, hclose, hclosing⟩ := hsituation.exists_closing hfallible
  refine ⟨log, writer, current, answer, next, after, hrun, hoperations, hnames, hclose, ?_⟩
  exact {
    names_eq := hclosing.names_eq
    complete := by
      rintro hkept path rfl
      obtain ⟨rfl, hclosed⟩ := hclosing.closed path rfl
      have hplaced := hclosing.situation
      rw [hkept, Bool.false_or] at hplaced
      exact ⟨rfl, members, hplaced.readArchive_eq hclosed, hpacked, hpacked.sublist,
        hpacked.eq_ofEntries⟩
    failed := hclosing.failed
    -- A lost archive leaves a closed writer, and closing that one changes nothing.
    hollow := by
      intro hlost
      rw [hlost] at hsituation
      have hadds := hsituation.adds_of_lost
      obtain ⟨hanswer, hnext, hafter⟩ := hclosing.settled hsituation.isClosed_of_lost
      exact ⟨hanswer, hnext, hafter, hafter ▸ hadds⟩ }

/-- The disk is full when the writer is first closed, and not any more when it is written to. -/
def briefShortage : FaultyTree where
  files := { entries := [(["out"], .directory), (["out", "m.zip"], .text "stale")] }
  plan := [some { reason := "No space left on device" }]

/-- A close and a write. -/
def closeAndWrite : List Operation :=
  [.close, .write "a.php" "1"]

/-- The first close fails before anything is opened. The second puts the archive in place. -/
theorem close_performAll_briefShortage :
    Storage.Fallible FaultyTree.files ∧ ∃ log writer current next after,
      (performAll (m := StateM FaultyTree) closeAndWrite (.new "out/m.zip")).run briefShortage =
          ((log, writer), current) ∧
        log = [(.close, .error (.archiveStorage "out" "No space left on device")),
          (.write "a.php" "1", .ok ())] ∧
        (writer.close (m := StateM FaultyTree)).run current = ((.ok "out/m.zip", next), after) ∧
        after.files.readArchive "out/m.zip" = .ok [.ofEntry "a.php" "1"] := by
  have hfallible := FaultyTree.fallible_faultyTree
  obtain ⟨log, writer, current, answer, next, after, hrun, -, -, hclose, htold⟩ :=
    close_performAll hfallible briefShortage "out/m.zip" closeAndWrite
  -- The run and the close behind it are computed, and are those of the theorem.
  generalize hfirst : (performAll (m := StateM FaultyTree) closeAndWrite (.new "out/m.zip")).run
    briefShortage = first at hrun
  have hlog : first.1.1 = [(.close, .error (.archiveStorage "out" "No space left on device")),
      (.write "a.php" "1", .ok ())] := by
    rw [← hfirst]
    decide +kernel
  have hanswer : ((first.1.2.close (m := StateM FaultyTree)).run first.2).1.1 =
      .ok "out/m.zip" := by
    rw [← hfirst]
    decide
  subst hrun
  dsimp only at hlog hanswer
  rw [hclose] at hanswer
  subst hlog hanswer
  refine ⟨hfallible, _, writer, current, next, after, rfl, rfl, hclose, ?_⟩
  obtain ⟨-, members, hread, -, -, hsound⟩ := htold.complete (by decide) _ rfl
  rw [hread, hsound ?_]
  · rfl
  · -- Only the close has failed in the storage, and it brings no entry.
    simp only [List.mem_cons, Prod.mk.injEq, List.not_mem_nil, or_false]
    rintro operation told (⟨rfl, rfl⟩ | ⟨rfl, rfl⟩) hentry
    · exact absurd rfl hentry
    · rfl

/-- The disk is full in the middle of an entry, and not any more when the writer is closed. -/
def shortEntry : FaultyTree where
  files := {}
  plan := [none, none, some { reason := "No space left on device", written? := some 3 }]

/-- The close succeeds, and the archive has an entry that the writer does not have. -/
example :
    let done := (performAll (m := StateM FaultyTree) [.write "a.php" "<?php", .close]
      (.new "m.zip")).run shortEntry
    done.1.1.map (·.2.isOk) = [false, true] ∧ done.1.2.names = [] ∧
      done.2.files.readArchive "m.zip" = .ok [.ofEntry "a.php" "<?p"] := by
  decide +kernel

/-- The target is a directory. The first close fails, and the second answers with the path of an
archive that is not there. -/
theorem close_ok_without_archive : ∃ writer current,
    (performAll (m := StateM FileTree) [.write "a.php" "x", .close] (.new "out")).run
        { entries := [(["out"], .directory)] } =
      (([(.write "a.php" "x", .ok ()),
        (.close, .error (.archiveStorage "out" FileTree.isDirectory))], writer), current) ∧
      writer.names = ["a.php"] ∧
      (writer.close (m := StateM FileTree)).run current = ((.ok "out", writer), current) ∧
      ∀ members, current.readArchive "out" ≠ .ok members := by
  refine ⟨⟨"out", .closed, ["a.php"]⟩, { entries := [(["out"], .directory)] }, ?_, rfl, rfl, ?_⟩
  · exact Prod.ext (by decide) (by decide)
  · intro members hread
    have hmissing : (FileTree.readArchive { entries := [(["out"], .directory)] } "out").isOk =
        false := by
      decide +kernel
    rw [hread] at hmissing
    cases hmissing

end SchemaMigration.ArchiveWriter
