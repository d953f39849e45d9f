import SchemaMigration.CommandLine.Arguments

/-!
# `SchemaMigration.CommandLine.Command`: commands with their arguments
-/

set_option autoImplicit false

namespace SchemaMigration.CommandLine

open SchemaMigration.Calendar

/-- What the command that generates migrations is given. -/
structure GenerateArguments where
  schema : String
  output : Option String := none
  directory : Option String := none
  baseTime : Option Moment := none
  stepSeconds : Option Int64 := none
  lenientForeignKeys : Bool := false
  overwrite : Bool := false
  deriving DecidableEq, Repr

/-- What the command that checks a schema is given. -/
structure ValidateArguments where
  schema : String
  lenientForeignKeys : Bool := false
  deriving DecidableEq, Repr

/-- What the command that prints migrations is given. -/
structure PreviewArguments where
  schema : String
  baseTime : Option Moment := none
  file : Option String := none
  lenientForeignKeys : Bool := false
  deriving DecidableEq, Repr

/-- What the command that lists an archive is given. -/
structure InspectArguments where
  archive : String
  showSchema : Bool := false
  deriving DecidableEq, Repr

/-- A command. -/
inductive Command where
  | generate (arguments : GenerateArguments)
  | validate (arguments : ValidateArguments)
  | preview (arguments : PreviewArguments)
  | inspect (arguments : InspectArguments)
  deriving DecidableEq, Repr

/-- A command and what holds for every command. -/
structure Invocation where
  command : Command
  /-- The path of the settings file, if it is given. -/
  config : Option String := none
  verbose : Bool := false
  deriving DecidableEq, Repr

namespace Matches

/-- The value of a parameter. -/
def value? (m : Matches) (parameter : Parameter) : Option Given :=
  (m.given.find? fun entry => entry.1 == parameter).map Prod.snd

/-- The text of a parameter. -/
def text? (m : Matches) (parameter : Parameter) : Option String :=
  match m.value? parameter with
  | some (.text s) => some s
  | _ => none

/-- The moment of a parameter. -/
def moment? (m : Matches) (parameter : Parameter) : Option Moment :=
  match m.value? parameter with
  | some (.moment t) => some t
  | _ => none

/-- The integer of a parameter. -/
def integer? (m : Matches) (parameter : Parameter) : Option Int64 :=
  match m.value? parameter with
  | some (.integer n) => some n
  | _ => none

end Matches

/-- The command that was given. -/
def Parsed.command (p : Parsed) : Command :=
  let m := p.own
  let schema := (m.text? .schema).getD ""
  match p.name with
  | .generate => .generate {
      schema
      output := m.text? .output
      directory := m.text? .directory
      baseTime := m.moment? .baseTime
      stepSeconds := m.integer? .stepSeconds
      lenientForeignKeys := m.has .lenientForeignKeys
      overwrite := m.has .overwrite }
  | .validate => .validate { schema, lenientForeignKeys := m.has .lenientForeignKeys }
  | .preview => .preview {
      schema
      baseTime := m.moment? .baseTime
      file := m.text? .file
      lenientForeignKeys := m.has .lenientForeignKeys }
  | .inspect => .inspect {
      archive := (m.text? .archive).getD ""
      showSchema := m.has .showSchema }

/-- Reads the words of a command line. What is given behind the command counts before what is
given ahead of it. -/
def Invocation.ofWords (words : List String) : Except Usage Invocation := do
  let parsed ← readTop {} words
  return {
    command := parsed.command
    config := parsed.own.text? .config <|> parsed.top.text? .config
    verbose := parsed.own.has .verbose || parsed.top.has .verbose }

end SchemaMigration.CommandLine
