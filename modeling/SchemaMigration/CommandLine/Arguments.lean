import SchemaMigration.Calendar.MomentText
import SchemaMigration.CommandLine.Grammar
import SchemaMigration.Text.Digits
import SchemaMigration.Text.Find

/-!
# `SchemaMigration.CommandLine.Arguments`: commands from words

Words are read from left to right, first those before the command, then those
behind it. A value that stands in a word of its own is pending until the next
option or positional word, or the end: only then is it checked.
-/

set_option autoImplicit false

namespace SchemaMigration.CommandLine

open SchemaMigration.Calendar

/-- Why words are no command to run. -/
inductive Usage where
  /-- Help is asked for. -/
  | help
  /-- The version is asked for. -/
  | version
  /-- There are no words. -/
  | nothingGiven
  | missingCommand
  | unknownCommand
  | unknownArgument
  /-- A flag is given a value. -/
  | valueOfFlag
  /-- An argument is given twice, or beside one that excludes it. -/
  | conflict
  /-- A value is missing or empty. -/
  | missingValue
  /-- A value is not of its type. -/
  | badValue
  | missingArgument
  deriving DecidableEq, Repr

/-- What an argument sets its parameter to. -/
inductive Given where
  | flag
  | text (s : String)
  | moment (t : Moment)
  | integer (n : Int64)
  deriving DecidableEq, Repr

/-- A value that is still to be checked. An option waits for it while it is `none`. -/
structure Pending where
  parameter : Parameter
  kind : ValueKind
  value : Option String
  deriving DecidableEq, Repr

/-- What the words of a level gave so far. -/
structure Matches where
  given : List (Parameter × Given) := []
  pending : Option Pending := none
  /-- Whether all further words are positional. -/
  positionalOnly : Bool := false
  /-- Whether the positional word is taken. -/
  positionalTaken : Bool := false

/-- The 64-bit integer that a text spells. -/
def readInteger? (text : List Char) : Option Int64 :=
  let (negative, digits) := match text with
    | '-' :: rest => (true, rest)
    | '+' :: rest => (false, rest)
    | rest => (false, rest)
  if digits.isEmpty || !digits.all Char.isDigit then none
  else
    let magnitude : Int := Text.digitsValue digits
    let n := if negative then -magnitude else magnitude
    if Int64.minValue.toInt ≤ n ∧ n ≤ Int64.maxValue.toInt then some (Int64.ofInt n) else none

/-- Reads a value. -/
def ValueKind.read (text : String) : ValueKind → Except Usage Given
  | .path => if text = "" then .error .missingValue else .ok (.text text)
  | .text => .ok (.text text)
  | .moment =>
    match Moment.ofText? text with
    | some t => .ok (.moment t)
    | none => .error .badValue
  | .integer =>
    match readInteger? text.toList with
    | some n => .ok (.integer n)
    | none => .error .badValue

namespace Matches

/-- Whether a parameter is given. -/
def has (m : Matches) (parameter : Parameter) : Bool :=
  m.given.any fun entry => entry.1 == parameter

/-- Sets a parameter to the value of a text. -/
def setValue (m : Matches) (parameter : Parameter) (kind : ValueKind) (text : String) :
    Except Usage Matches :=
  if m.has parameter then .error .conflict
  else do return { m with given := m.given ++ [(parameter, ← kind.read text)] }

/-- Checks the pending value. -/
def settle (m : Matches) : Except Usage Matches :=
  match m.pending with
  | none => .ok m
  | some { value := none, .. } => .error .missingValue
  | some { parameter, kind, value := some text } =>
    ({ m with pending := none } : Matches).setValue parameter kind text

/-- Whether an option waits for its value. -/
def isWaiting (m : Matches) : Bool :=
  match m.pending with
  | some pending => pending.value.isNone
  | none => false

/-- Sets a flag, or answers an option that ends the reading. -/
def setFlag (m : Matches) (option : OptionForm) : Except Usage Matches := do
  let m ← m.settle
  match option.role with
  | .help => .error .help
  | .version => .error .version
  | _ =>
    if m.has option.parameter then .error .conflict
    else return { m with given := m.given ++ [(option.parameter, .flag)] }

/-- Takes an option that has a value, which may be attached to it. -/
def takeOption (m : Matches) (parameter : Parameter) (kind : ValueKind)
    (attached : Option String) : Except Usage Matches := do
  let m ← m.settle
  match attached with
  | some text => m.setValue parameter kind text
  | none => return { m with pending := some { parameter, kind, value := none } }

/-- Reads a word of two dashes and a name, with a value behind an equals sign. -/
def readLong (m : Matches) (level : Level) (body : List Char) : Except Usage Matches :=
  let (name, attached) := match Text.cut? ['='] body with
    | some (name, value) => (String.ofList name, some (String.ofList value))
    | none => (String.ofList body, none)
  match level.long? name with
  | none => .error .unknownArgument
  | some option =>
    match option.role, attached with
    | .value kind, attached => m.takeOption option.parameter kind attached
    | _, some _ => .error .valueOfFlag
    | _, none => m.setFlag option

/-- Reads the letters of a word of one dash. What follows the letter of an option with a
value is the value. -/
def readShort (level : Level) : Matches → List Char → Except Usage Matches
  | m, [] => .ok m
  | m, letter :: rest =>
    match level.short? letter with
    | none => .error .unknownArgument
    | some option =>
      match option.role, rest with
      -- The value is the rest of the word, with or without an equals sign, or the next word.
      | .value kind, [] => m.takeOption option.parameter kind none
      | .value kind, '=' :: value =>
        m.takeOption option.parameter kind (some (String.ofList value))
      | .value kind, value => m.takeOption option.parameter kind (some (String.ofList value))
      | _, rest => do readShort level (← m.setFlag option) rest

/-- Reads a word that is no option. -/
def readPositional (m : Matches) (level : Level) (word : String) : Except Usage Matches :=
  match level.positional?, m.positionalTaken with
  | some parameter, false => do
    let m ← m.settle
    return { m with
      pending := some { parameter, kind := .path, value := some word }
      positionalTaken := true }
  | some _, true => .error .unknownArgument
  | none, _ =>
    let isCommand := (CommandName.ofWord? word).isSome || word == helpWord
    .error (if m.positionalOnly && isCommand then .unknownArgument else .unknownCommand)

/-- Reads a word that is no command. -/
def readWord (m : Matches) (level : Level) (word : String) : Except Usage Matches :=
  if m.positionalOnly then m.readPositional level word
  else
    match word.toList, m.pending with
    -- Behind two dashes alone every word is positional.
    | ['-', '-'], _ => .ok { m with positionalOnly := true }
    | '-' :: '-' :: body, _ => m.readLong level body
    | '-' :: letter :: letters, _ => readShort level m (letter :: letters)
    | _, some { parameter, kind, value := none } =>
      -- An option that waits for its value takes the word.
      .ok { m with pending := some { parameter, kind, value := some word } }
    | _, _ => m.readPositional level word

/-- Reads the words behind a command. -/
def readAll (level : Level) : Matches → List String → Except Usage Matches
  | m, [] => m.settle
  | m, word :: rest => do readAll level (← m.readWord level word) rest

end Matches

/-- Reads the words behind a command and checks that they are complete. -/
def readCommand (name : CommandName) (words : List String) : Except Usage Matches := do
  let level := Level.command name
  let m ← Matches.readAll level {} words
  if m.has .output && m.has .directory then throw .conflict
  match level.positional? with
  | some parameter => if m.has parameter then return m else throw .missingArgument
  | none => return m

/-- The answer to a request for help on commands. -/
def helpOn : List String → Usage
  | [] => .help
  | [word] =>
    if (CommandName.ofWord? word).isSome || word == helpWord then .help else .unknownCommand
  | _ => .unknownCommand

/-- A command with what was given before it and behind it. -/
structure Parsed where
  name : CommandName
  top : Matches
  own : Matches

/-- Reads the words of a command line, with `m` given so far. -/
def readTop (m : Matches) : List String → Except Usage Parsed
  | [] => do
    let m ← m.settle
    throw (if m.given.isEmpty then .nothingGiven else .missingCommand)
  | word :: rest =>
    -- A word that is a value or stands behind two dashes is no command.
    if m.positionalOnly || m.isWaiting then do readTop (← m.readWord .top word) rest
    else if word = helpWord then .error (helpOn rest)
    else
      match CommandName.ofWord? word with
      | some name => do
        let own ← readCommand name rest
        return { name, top := ← m.settle, own }
      | none => do readTop (← m.readWord .top word) rest

end SchemaMigration.CommandLine
