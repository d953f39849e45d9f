import SchemaMigration.Calendar.Moment
import SchemaMigration.Error
import SchemaMigration.Schema.Validation
import SchemaMigration.Text.Literal

/-!
# `SchemaMigration.Generation.Config`: settings of a run
-/

set_option autoImplicit false

namespace SchemaMigration

open SchemaMigration.Calendar

/-- The settings of a run. -/
structure Config where
  /-- The path of the archive. -/
  output : String := "./migrations.zip"
  /-- The moment of the first key. Without it a run starts at the current time. -/
  baseTime : Option Moment := none
  /-- Seconds between keys. -/
  stepSeconds : Int64 := 60
  strictness : Strictness := .strict
  /-- The extension of migration files. -/
  extension : String := "php"
  /-- The descriptive name of the migration that adds foreign keys. -/
  relationsName : String := "foreign_keys"
  /-- Whether migrations in a directory may be replaced. -/
  overwrite : Bool := false
  deriving DecidableEq, Repr

namespace Config

/-- Whether files can have this extension. -/
def isExtension (extension : String) : Bool :=
  extension != "" && extension.toList.all fun c => c != '.' && c != '/' && c != '\\'

/-- Checks the settings. -/
def validate (config : Config) : Except Error Unit :=
  if !isExtension config.extension then
    .error (.configuration (.badExtension config.extension))
  else if !Text.isName config.relationsName then
    .error (.configuration (.badRelationsName config.relationsName))
  else if config.stepSeconds < 1 then
    .error (.configuration (.stepTooShort config.stepSeconds.toInt))
  else .ok ()

end Config

end SchemaMigration
