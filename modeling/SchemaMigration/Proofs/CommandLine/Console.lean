import SchemaMigration.CommandLine.Run
import SchemaMigration.Proofs.Storage.DirectoryWrites
import SchemaMigration.Proofs.Text.DecodedBytes

/-!
# `SchemaMigration.Proofs.CommandLine.Console`: commands step by step

A command goes on in two ways at once: it adds to what it has written, and it changes the files.
`Console.perform` runs it from a transcript and a file tree and tells both afterwards. The
`perform_` lemmas say what each kind of step does with them, so that a command is followed from
one step to the next.

A step that reads leaves both as they are (`Console.Reads`). Previewing and generating begin with
two of these, which read the settings and the schema. Without them nothing is done, and the failure
is the same for every command that asks for them (`exists_inputs_or_failure`). What comes behind
them is one of three things: the files of a run are printed (`display`), they are written to a
directory (`store`), or the run goes into an archive (`pack`).
-/

set_option autoImplicit false

namespace SchemaMigration.CommandLine

open SchemaMigration.Calendar
open SchemaMigration.Outcome

/-! ### Actions that change no file -/

/-- An action of storage leaves the files as they are. -/
def LeavesFiles {α : Type} (action : ExceptT Error (StateM FileTree) α) : Prop :=
  ∀ tree, (action.run.run tree).2 = tree

section LeavesFiles

variable {α β ε : Type} {x : ExceptT Error (StateM FileTree) α}
  {f : α → ExceptT Error (StateM FileTree) β}

theorem LeavesFiles.bind (hx : LeavesFiles x) (hf : ∀ a, LeavesFiles (f a)) :
    LeavesFiles (x >>= f) := by
  intro tree
  rcases hrun : x.run.run tree with ⟨result, after⟩
  obtain rfl : after = tree := by
    rw [← hx tree, hrun]
  cases result with
  | error error => rw [run_bind_of_error hrun]
  | ok a => rw [run_bind_of_ok hrun, hf a]

theorem leavesFiles_result (result : Except Error α) :
    LeavesFiles (ExceptT.mk (pure result) : ExceptT Error (StateM FileTree) α) :=
  fun _ => rfl

theorem leavesFiles_attempt {operation : StateM FileTree (Except ε α)}
    (h : ∀ tree, (operation.run tree).2 = tree) (error : ε → Error) :
    LeavesFiles (Storage.attempt operation error) :=
  h

theorem leavesFiles_load (path : String) :
    LeavesFiles (Settings.load (m := StateM FileTree) path) := by
  refine .bind (leavesFiles_attempt (fun _ => rfl) _) fun bytes => ?_
  cases Text.Utf8.decode bytes with
  | ok text => exact leavesFiles_result _
  | error fault => exact leavesFiles_result _

theorem leavesFiles_loadOptional (path : String) :
    LeavesFiles (Settings.loadOptional (m := StateM FileTree) path) := by
  refine .bind (fun _ => rfl) fun there => ?_
  cases there with
  | false => exact leavesFiles_result _
  | true => exact .bind (leavesFiles_load path) fun settings => leavesFiles_result _

theorem leavesFiles_loadSchema (path : String) :
    LeavesFiles (Schema.load (m := StateM FileTree) path) :=
  .bind (leavesFiles_attempt (fun _ => rfl) _) fun _ => leavesFiles_result _

end LeavesFiles

/-! ### Commands in a row -/

namespace Console

variable {α β : Type} {tree middle after : FileTree} {told between last : Transcript}
  {x : Console (StateM FileTree) α} {f : α → Console (StateM FileTree) β}

/-- Runs a command that has written something and meets some files. -/
def perform (x : Console (StateM FileTree) α) (told : Transcript) (tree : FileTree) :
    (Except Failure α × Transcript) × FileTree :=
  ((ExceptT.run x).run told).run tree

/-- What follows a step is decided by its outcome, and goes on from where the step ends. -/
theorem perform_bind (x : Console (StateM FileTree) α) (f : α → Console (StateM FileTree) β)
    (told : Transcript) (tree : FileTree) :
    (x >>= f).perform told tree =
      ((ExceptT.bindCont f (x.perform told tree).1.1).run (x.perform told tree).1.2).run
        (x.perform told tree).2 := rfl

/-- What follows a step that succeeds goes on from where the step ends. -/
theorem perform_bind_of_ok {a : α} (h : x.perform told tree = ((.ok a, between), middle))
    (f : α → Console (StateM FileTree) β) :
    (x >>= f).perform told tree = (f a).perform between middle := by
  rw [perform_bind, h]
  rfl

/-- Nothing follows a step that fails. -/
theorem perform_bind_of_error {failure : Failure}
    (h : x.perform told tree = ((.error failure, between), middle))
    (f : α → Console (StateM FileTree) β) :
    (x >>= f).perform told tree = ((.error failure, between), middle) := by
  rw [perform_bind, h]
  rfl

theorem perform_put (text : String) (told : Transcript) (tree : FileTree) :
    (put text : Console (StateM FileTree) Unit).perform told tree =
      ((.ok (), { told with out := told.out ++ text }), tree) := rfl

theorem perform_putLine (line : String) (told : Transcript) (tree : FileTree) :
    (putLine line : Console (StateM FileTree) Unit).perform told tree =
      ((.ok (), { told with out := told.out ++ (line ++ "\n") }), tree) := rfl

theorem perform_warn (warnings : List String) (told : Transcript) (tree : FileTree) :
    (warn warnings : Console (StateM FileTree) Unit).perform told tree =
      ((.ok (), { told with
        warnings := told.warnings ++ String.join (warnings.map (s!"warning: {·}\n")) }),
        tree) := rfl

/-- The failure that an error in some contexts makes of a command. -/
def failed {α : Type} (contexts : List String) (result : Except Error α) : Except Failure α :=
  result.mapError fun error => { contexts, cause := .error error }

/-- An action that is run in some contexts writes nothing itself. -/
theorem perform_within {action : ExceptT Error (StateM FileTree) α} {result : Except Error α}
    (h : action.run.run tree = (result, after)) (contexts : List String) (told : Transcript) :
    (within contexts action).perform told tree = ((failed contexts result, told), after) := by
  unfold perform within
  simp only [ExceptT.run_mk, StateT.run_bind, StateT.run_monadLift, monadLift_self, bind_assoc,
    pure_bind, h]
  cases result <;> rfl

theorem perform_check (result : Except Error α) (told : Transcript) (tree : FileTree) :
    (check result).perform told tree = ((failed [] result, told), tree) :=
  perform_within rfl [] told

/-- What a command comes to that meets some files and has written nothing. -/
def answer (x : Console (StateM FileTree) α) (tree : FileTree) : Except Failure α :=
  (x.perform {} tree).1.1

/-- A command changes nothing, and does not depend on what has been written. -/
def Reads (x : Console (StateM FileTree) α) : Prop :=
  ∀ told tree, x.perform told tree = ((x.answer tree, told), tree)

/-- What follows a step that reads goes on with what it has found. -/
theorem Reads.perform_bind_of_ok (hx : Reads x) {a : α} (h : x.answer tree = .ok a)
    (f : α → Console (StateM FileTree) β) (told : Transcript) :
    (x >>= f).perform told tree = (f a).perform told tree := by
  refine Console.perform_bind_of_ok ?_ f
  rw [hx, h]

theorem Reads.perform_bind_of_error (hx : Reads x) {failure : Failure}
    (h : x.answer tree = .error failure) (f : α → Console (StateM FileTree) β)
    (told : Transcript) : (x >>= f).perform told tree = ((.error failure, told), tree) := by
  refine Console.perform_bind_of_error ?_ f
  rw [hx, h]

theorem Reads.bind (hx : Reads x) (hf : ∀ a, Reads (f a)) : Reads (x >>= f) := by
  intro told tree
  have hanswer : (x >>= f).answer tree = ((x >>= f).perform {} tree).1.1 := rfl
  rw [hanswer]
  cases h : x.answer tree with
  | error failure => rw [hx.perform_bind_of_error h, hx.perform_bind_of_error h]
  | ok a => rw [hx.perform_bind_of_ok h, hx.perform_bind_of_ok h, hf a, hf a {}]

theorem reads_pure (a : α) : Reads (pure a : Console (StateM FileTree) α) :=
  fun _ _ => rfl

theorem reads_within {action : ExceptT Error (StateM FileTree) α} (h : LeavesFiles action)
    (contexts : List String) : Reads (within contexts action) := by
  intro told tree
  have hrun : action.run.run tree = ((action.run.run tree).1, tree) := Prod.ext rfl (h tree)
  rw [answer, perform_within hrun, perform_within hrun]

end Console

/-- Runs a command in a working directory with some files. -/
def Invocation.runIn (invocation : Invocation) (now : Moment) (tree : FileTree) :
    (Except Failure Unit × Transcript) × FileTree :=
  (invocation.transcript (m := StateM FileTree) now).run tree

open Console

/-- The configuration is read from the settings file. -/
theorem reads_resolveConfig (config : Option String) :
    Reads (resolveConfig (m := StateM FileTree) config) := by
  cases config with
  | some path =>
    exact .bind (reads_within (leavesFiles_load path) _) fun settings =>
      .bind (reads_pure _) fun settings => reads_pure _
  | none => exact .bind (reads_within (leavesFiles_loadOptional _) _) fun settings => reads_pure _

/-- The schema is read from its document. -/
theorem reads_loadSchema (path : String) : Reads (loadSchema (m := StateM FileTree) path) :=
  reads_within (leavesFiles_loadSchema path) _

/-- The settings and the schema that a command reads. -/
structure Inputs (config : Option String) (path : String) (tree : FileTree) (settings : Config)
    (schema : Schema) : Prop where
  settings : (resolveConfig (m := StateM FileTree) config).answer tree = .ok settings
  schema : (loadSchema (m := StateM FileTree) path).answer tree = .ok schema

/-- A command that reads its settings and its schema, and goes on with them. -/
def withInputs {m : Type → Type} [Monad m] [Storage m] (config : Option String) (path : String)
    (rest : Config → Schema → Console m Unit) : Console m Unit := do
  let settings ← resolveConfig config
  let schema ← loadSchema path
  rest settings schema

theorem Inputs.perform_withInputs {config : Option String} {path : String} {tree : FileTree}
    {settings : Config} {schema : Schema} (h : Inputs config path tree settings schema)
    (rest : Config → Schema → Console (StateM FileTree) Unit) :
    (withInputs config path rest).perform {} tree = (rest settings schema).perform {} tree :=
  ((reads_resolveConfig config).perform_bind_of_ok h.settings _ _).trans
    ((reads_loadSchema path).perform_bind_of_ok h.schema _ _)

/-- Commands with the same settings file and the same schema go on with the same inputs, or all of
them fail for the same reason before they have done anything. -/
theorem exists_inputs_or_failure (config : Option String) (path : String) (tree : FileTree) :
    (∃ settings schema, Inputs config path tree settings schema) ∨
      ∃ failure, ∀ rest, (withInputs (m := StateM FileTree) config path rest).perform {} tree =
        ((.error failure, {}), tree) := by
  cases hsettings : (resolveConfig (m := StateM FileTree) config).answer tree with
  | error failure =>
    exact .inr ⟨failure, fun rest =>
      (reads_resolveConfig config).perform_bind_of_error hsettings _ _⟩
  | ok settings =>
    cases hschema : (loadSchema (m := StateM FileTree) path).answer tree with
    | ok schema => exact .inl ⟨settings, schema, hsettings, hschema⟩
    | error failure =>
      exact .inr ⟨failure, fun rest =>
        ((reads_resolveConfig config).perform_bind_of_ok hsettings _ _).trans
          ((reads_loadSchema path).perform_bind_of_error hschema _ _)⟩

/-- A command that succeeds has read its inputs, and has gone on with them. -/
theorem exists_inputs_of_withInputs {config : Option String} {path : String}
    {rest : Config → Schema → Console (StateM FileTree) Unit} {tree after : FileTree}
    {told : Transcript}
    (h : (withInputs config path rest).perform {} tree = ((.ok (), told), after)) :
    ∃ settings schema, Inputs config path tree settings schema ∧
      (rest settings schema).perform {} tree = ((.ok (), told), after) := by
  rcases exists_inputs_or_failure config path tree with
    ⟨settings, schema, hinputs⟩ | ⟨failure, hfailure⟩
  · exact ⟨settings, schema, hinputs, (hinputs.perform_withInputs rest).symm.trans h⟩
  · cases (hfailure rest).symm.trans h

/-- The configuration with what a preview gives. -/
def PreviewArguments.applyTo (p : PreviewArguments) (config : Config) : Config :=
  withLenient p.lenientForeignKeys { config with baseTime := p.baseTime <|> config.baseTime }

section Runs

variable {m : Type → Type} [Monad m] [Storage m]

/-- Prints what a run in memory comes to. -/
def display (result : Except Error Collection) : Console m Unit := do
  let output ← check result
  warn output.warnings
  put (String.join (output.files.map fun f => s!"==> {f.path} <==\n{f.content}\n"))
  put (Summary.ofCollection output).text

/-- Writes to a directory what a run in memory comes to. -/
def store (directory : String) (overwrite : Bool) (result : Except Error Collection) :
    Console m Unit := do
  let output ← check result
  warn output.warnings
  let written ← within [s!"failed to write migrations to {directory}"]
    (output.writeTo directory overwrite)
  put (String.join (written.map (s!"  + {·}\n")))
  putLine ""
  put (Summary.ofCollection output).text
  putLine s!"✓ Wrote {written.length} migrations to {directory}"

/-- Runs into an archive. -/
def pack (config : Config) (now : Moment) (schema : Schema) : Console m Unit := do
  let archive ← within [s!"failed to generate {config.output}"]
    (Generator.generateArchive config now schema)
  warn archive.warnings
  let entries := s!"({archive.entries.length} entries)"
  putLine s!"✓ Generated {schema.tables.length} table migrations into {archive.path} {entries}"

theorem runPreview_eq {p : PreviewArguments} (hfile : p.file = none) (config : Option String)
    (now : Moment) : runPreview (m := m) p config now = withInputs config p.schema
      fun settings schema => display (Generator.generate (p.applyTo settings) now schema) := by
  unfold runPreview
  rw [hfile]
  rfl

variable {a : GenerateArguments} {directory : String}

theorem runGenerate_eq_store (hdirectory : a.directory = some directory) (config : Option String)
    (now : Moment) : runGenerate (m := m) a config now = withInputs config a.schema
      fun settings schema => store directory (a.applyTo settings).overwrite
        (Generator.generate (a.applyTo settings) now schema) := by
  unfold runGenerate
  rw [hdirectory]
  rfl

theorem runGenerate_eq_pack (harchive : a.directory = none) (config : Option String)
    (now : Moment) : runGenerate (m := m) a config now = withInputs config a.schema
      fun settings schema => pack (a.applyTo settings) now schema := by
  unfold runGenerate
  rw [harchive]
  rfl

end Runs

variable {config settings : Config} {schema : Schema} {now : Moment} {tree after : FileTree}
  {output : Collection} {directory : String} {overwrite : Bool} {told : Transcript}

/-- The error of a run in memory is that of a command which prints it. -/
theorem perform_display_of_error (error : Error) (tree : FileTree) :
    (display (.error error) : Console (StateM FileTree) Unit).perform {} tree =
      ((.error ⟨[], .error error⟩, {}), tree) :=
  perform_bind_of_error (perform_check (.error error) {} tree) _

/-- What is printed of the files of a run: each under its path, and the summary. -/
def printed (output : Collection) : Transcript where
  out := String.join (output.files.map fun file => s!"==> {file.path} <==\n{file.content}\n") ++
    (Summary.ofCollection output).text
  warnings := String.join (output.warnings.map (s!"warning: {·}\n"))

theorem perform_display_of_ok (output : Collection) (tree : FileTree) :
    (display (.ok output) : Console (StateM FileTree) Unit).perform {} tree =
      ((.ok (), printed output), tree) := by
  unfold display
  rw [perform_bind_of_ok (perform_check (.ok output) {} tree),
    perform_bind_of_ok (perform_warn _ _ _), perform_bind_of_ok (perform_put _ _ _), perform_put]
  simp only [printed, String.empty_append]

/-- The error of a run in memory is reported before anything is written. -/
theorem perform_store_of_error (directory : String) (overwrite : Bool) (error : Error)
    (tree : FileTree) :
    (store directory overwrite (.error error) : Console (StateM FileTree) Unit).perform {} tree =
      ((.error ⟨[], .error error⟩, {}), tree) :=
  perform_bind_of_error (perform_check (.error error) {} tree) _

theorem exists_perform_store {paths : List String}
    (h : (output.writeTo (m := StateM FileTree) directory overwrite).run.run tree =
      (.ok paths, after)) :
    ∃ told, (store directory overwrite (.ok output) : Console (StateM FileTree) Unit).perform {}
      tree = ((.ok (), told), after) := by
  unfold store
  rw [perform_bind_of_ok (perform_check (.ok output) {} tree),
    perform_bind_of_ok (perform_warn _ _ _), perform_bind_of_ok (perform_within h _ _),
    perform_bind_of_ok (perform_put _ _ _), perform_bind_of_ok (perform_putLine _ _ _),
    perform_bind_of_ok (perform_put _ _ _), perform_putLine]
  exact ⟨_, rfl⟩

/-- A command that packs an archive comes to what the run into the archive does. -/
theorem exists_perform_pack {result : Except Error GeneratedArchive}
    (hrun : (Generator.generateArchive (m := StateM FileTree) config now schema).run.run tree =
      (result, after)) :
    ∃ told, (pack (m := StateM FileTree) config now schema).perform {} tree =
      ((failed [s!"failed to generate {config.output}"] (result.map fun _ => ()), told),
        after) := by
  cases result with
  | error error => exact ⟨_, perform_bind_of_error (perform_within hrun _ _) _⟩
  | ok archive => exact ⟨_, perform_bind_of_ok (perform_within hrun _ _) _⟩

end SchemaMigration.CommandLine
