/-!
# `SchemaMigration.CommandLine.Grammar`: commands and their options

The words that a command line may hold, before the command and behind it.
-/

set_option autoImplicit false

namespace SchemaMigration.CommandLine

/-- What a word of the command line sets. -/
inductive Parameter where
  | verbose
  | config
  | help
  | version
  | schema
  | archive
  | output
  | directory
  | baseTime
  | stepSeconds
  | lenientForeignKeys
  | overwrite
  | file
  | showSchema
  deriving DecidableEq, Repr

/-- The type of a value. -/
inductive ValueKind where
  | path
  | text
  | moment
  | integer
  deriving DecidableEq, Repr

/-- What an option does. -/
inductive Role where
  | flag
  | value (kind : ValueKind)
  | help
  | version
  deriving DecidableEq, Repr

/-- An option and its spellings. -/
structure OptionForm where
  parameter : Parameter
  long : String
  short : Option Char := none
  role : Role := .flag
  deriving DecidableEq, Repr

/-- The commands. -/
inductive CommandName where
  | generate
  | validate
  | preview
  | inspect
  deriving DecidableEq, Repr

/-- The word of a command. -/
def CommandName.word : CommandName → String
  | .generate => "generate"
  | .validate => "validate"
  | .preview => "preview"
  | .inspect => "inspect"

/-- All commands. -/
def CommandName.all : List CommandName := [.generate, .validate, .preview, .inspect]

/-- The command of a word. -/
def CommandName.ofWord? (word : String) : Option CommandName :=
  all.find? fun name => name.word == word

/-- The word that asks for help instead of a command. -/
def helpWord : String := "help"

/-- Where on the command line a word stands. -/
inductive Level where
  /-- Before the command. -/
  | top
  /-- Behind a command. -/
  | command (name : CommandName)
  deriving DecidableEq, Repr

namespace Level

/-- The options that stand at every level. -/
def globalOptions : List OptionForm := [
  { parameter := .verbose, long := "verbose", short := some 'v' },
  { parameter := .config, long := "config", short := some 'c', role := .value .path },
  { parameter := .help, long := "help", short := some 'h', role := .help }]

/-- The options of one level only. -/
def ownOptions : Level → List OptionForm
  | .top => [{ parameter := .version, long := "version", short := some 'V', role := .version }]
  | .command .generate => [
    { parameter := .output, long := "output", short := some 'o', role := .value .path },
    { parameter := .directory, long := "dir", role := .value .path },
    { parameter := .baseTime, long := "base-time", role := .value .moment },
    { parameter := .stepSeconds, long := "step-seconds", role := .value .integer },
    { parameter := .lenientForeignKeys, long := "lenient-fks" },
    { parameter := .overwrite, long := "overwrite" }]
  | .command .validate => [{ parameter := .lenientForeignKeys, long := "lenient-fks" }]
  | .command .preview => [
    { parameter := .baseTime, long := "base-time", role := .value .moment },
    { parameter := .file, long := "file", short := some 'f', role := .value .text },
    { parameter := .lenientForeignKeys, long := "lenient-fks" }]
  | .command .inspect => [{ parameter := .showSchema, long := "schema" }]

/-- The options of a level. -/
def options (level : Level) : List OptionForm :=
  globalOptions ++ level.ownOptions

/-- The parameter of a word that is no option. -/
def positional? : Level → Option Parameter
  | .top => none
  | .command .inspect => some .archive
  | .command _ => some .schema

/-- The option with a long name. -/
def long? (level : Level) (name : String) : Option OptionForm :=
  level.options.find? fun option => option.long == name

/-- The option with a letter. -/
def short? (level : Level) (letter : Char) : Option OptionForm :=
  level.options.find? fun option => option.short == some letter

end Level

end SchemaMigration.CommandLine
