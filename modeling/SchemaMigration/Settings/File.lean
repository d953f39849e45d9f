import SchemaMigration.Calendar.MomentText
import SchemaMigration.Generation.Config
import SchemaMigration.Settings.Value
import SchemaMigration.Storage.Basic
import SchemaMigration.Text.Utf8

/-!
# `SchemaMigration.Settings.File`: the settings file

A settings file is a list of lines `key = value`, with comments behind `#`. Every
key is one of the settings of a run, stands at most once, and has a value of its
type. Settings that are absent leave a configuration as it is.
-/

set_option autoImplicit false

namespace SchemaMigration

open SchemaMigration.Calendar

/-- The settings that a file gives. -/
structure Settings where
  output : Option String := none
  baseTime : Option Moment := none
  stepSeconds : Option Int64 := none
  strictForeignKeys : Option Bool := none
  extension : Option String := none
  relationsName : Option String := none
  overwrite : Option Bool := none
  deriving DecidableEq, Repr

namespace Settings

/-- The name of the settings file that is read without being asked for. -/
def fileName : String := "schemer.toml"

/-! ### Lines -/

/-- Whether a character belongs to a key without quotes. -/
def isKeyChar (c : Char) : Bool :=
  c.isAlphanum || c == '_' || c == '-'

/-- Reads a key. -/
def readKey? (text : List Char) : Option (String × List Char) :=
  match text with
  | '"' :: _ | '\'' :: _ => (readQuoted? text).map fun (key, rest) => (String.ofList key, rest)
  | text =>
    let key := text.takeWhile isKeyChar
    if key.isEmpty then none else some (String.ofList key, text.dropWhile isKeyChar)

/-- Drops the gaps at the front of a text. -/
def skipGaps (text : List Char) : List Char :=
  text.dropWhile isGap

/-- Reads the end of a line, with a comment before it. -/
def readLineEnd? (text : List Char) : Option (List Char) :=
  let rest := match skipGaps text with
    | '#' :: comment => comment.dropWhile isPlain
    | rest => rest
  if rest.isEmpty then some [] else afterLineEnd? rest

/-- Reads a line: its entry, if it has one, and what follows it. -/
def readLine? (text : List Char) : Option (Option (String × Value) × List Char) :=
  match readLineEnd? text with
  -- The line is blank or a comment.
  | some rest => some (none, rest)
  | none => do
    let (key, text) ← readKey? (skipGaps text)
    match skipGaps text with
    | '=' :: text =>
      let (value, text) ← readValue? (skipGaps text)
      return (some (key, value), ← readLineEnd? text)
    | _ => none

/-- Reads at most `fuel` lines. -/
def readLinesOf : Nat → List Char → Option (List (String × Value))
  | _, [] => some []
  | 0, _ => none
  | fuel + 1, text => do
    let (entry, rest) ← readLine? text
    return entry.toList ++ (← readLinesOf fuel rest)

/-- The entries of a file. A mark of the byte order at its front does not count. Every line
takes a character at least. -/
def entries? (text : String) : Option (List (String × Value)) :=
  let chars := match text.toList with
    | '\ufeff' :: rest => rest
    | chars => chars
  readLinesOf chars.length chars

/-! ### Settings -/

/-- Adds an entry. -/
def add? (settings : Settings) (key : String) (value : Value) : Option Settings :=
  match key, value with
  | "output", .text s => some { settings with output := some s }
  | "base_time", .text s =>
    (Moment.ofText? s).map fun moment => { settings with baseTime := some moment }
  | "step_seconds", .integer n => some { settings with stepSeconds := some (Int64.ofInt n) }
  | "strict_foreign_keys", .boolean b => some { settings with strictForeignKeys := some b }
  | "extension", .text s => some { settings with extension := some s }
  | "relations_name", .text s => some { settings with relationsName := some s }
  | "overwrite", .boolean b => some { settings with overwrite := some b }
  | _, _ => none

/-- The settings that a text gives, if it is a settings file. -/
def parse? (text : String) : Option Settings := do
  let entries ← entries? text
  if (entries.map Prod.fst).Nodup then
    entries.foldlM (fun settings (key, value) => settings.add? key value) {}
  else none

/-- The settings that a text gives. -/
def ofText (text : String) : Except Error Settings :=
  match parse? text with
  | some settings => .ok settings
  | none => .error (.configuration .unreadableSettings)

/-- Puts the settings of a file over a configuration. -/
def applyTo (settings : Settings) (config : Config) : Config where
  output := settings.output.getD config.output
  baseTime := settings.baseTime <|> config.baseTime
  stepSeconds := settings.stepSeconds.getD config.stepSeconds
  strictness :=
    match settings.strictForeignKeys with
    | some true => .strict
    | some false => .lenient
    | none => config.strictness
  extension := settings.extension.getD config.extension
  relationsName := settings.relationsName.getD config.relationsName
  overwrite := settings.overwrite.getD config.overwrite

variable {m : Type → Type} [Monad m] [Storage m]

/-- Reads a settings file. -/
def load (path : String) : ExceptT Error m Settings := do
  let bytes ← Storage.attempt (Storage.readBytes path) (.fileRead path)
  match Text.Utf8.decode bytes with
  | .ok text => ExceptT.mk (pure (ofText text))
  | .error _ => throw (.fileRead path "stream did not contain valid UTF-8")

/-- Reads a settings file if there is one. -/
def loadOptional (path : String) : ExceptT Error m (Option Settings) := do
  if ← ExceptT.lift (Storage.pathExists path) then return some (← load path)
  else return none

end Settings

end SchemaMigration
