import SchemaMigration.Json.ReadError
import SchemaMigration.Schema.Identifier
import SchemaMigration.Text.Utf8

/-!
# `SchemaMigration.Error`: what can go wrong, and how it is said

Each error is a cause. Its wording is in `Error.message` alone. Causes that come
from outside the library (a storage fault, a note of a caller) carry their text.
-/

set_option autoImplicit false

namespace SchemaMigration

/-- Why a schema is malformed. -/
inductive SchemaFault where
  /-- The document cannot be read. -/
  | unreadable (error : Json.ReadError)
  /-- The document is not text. -/
  | notUtf8 (fault : Text.Utf8.Fault)
  | unknownColumnType (name : String)
  | noColumns (table : String) (id : Identifier)
  | unnamedTable (id : Identifier)
  | badTableName (name : String)
  | unnamedColumn (table : String)
  | repeatedColumn (table column : String)
  | note (text : String)
  deriving DecidableEq, Repr

/-- The wording of a schema fault. -/
def SchemaFault.message : SchemaFault → String
  | .unreadable .illFormed => "not a JSON document"
  | .unreadable (.shape error) => error.message
  | .notUtf8 fault => s!"Invalid UTF-8: {fault.message}"
  | .unknownColumnType name => s!"unknown column type '{name}'"
  | .noColumns table id => s!"table '{table}' (id {id.key}) has no entry in 'columns'"
  | .unnamedTable id => s!"table with id {id.key} has an empty name"
  | .badTableName name => s!"table name '{name}' is not a valid identifier"
  | .unnamedColumn table => s!"table '{table}' has a column without a name"
  | .repeatedColumn table column => s!"column '{column}' is declared twice in table '{table}'"
  | .note text => text

/-- Why an artifact cannot have its name. -/
inductive NameClash where
  /-- Two tables have migrations of one class. -/
  | sameMigration (first second : String)
  /-- The collection has a file of this name. -/
  | inCollection
  /-- The archive has an entry of this name. -/
  | inArchive
  /-- The directory has a migration of this name. -/
  | onDisk (name directory : String)
  | note (text : String)
  deriving DecidableEq, Repr

/-- The wording of a name clash. -/
def NameClash.message : NameClash → String
  | .sameMigration first second => s!"'{first}' and '{second}' generate the same migration"
  | .inCollection => "a file with this name was already generated"
  | .inArchive => "an entry with this name is already in the archive"
  | .onDisk name directory => s!"migration '{name}' already exists in {directory}"
  | .note text => text

/-- What a foreign key fails to refer to. -/
inductive Unresolved where
  | noTable (name : String)
  | noColumn (table column : String)
  | note (text : String)
  deriving DecidableEq, Repr

/-- The wording of an unresolved foreign key. -/
def Unresolved.message : Unresolved → String
  | .noTable name => s!"no table named '{name}'"
  | .noColumn table column => s!"table '{table}' has no column '{column}'"
  | .note text => text

/-- Why a template is refused or cannot be filled. -/
inductive TemplateFault where
  | unterminatedSlot
  | unnamedSlot
  | unknownSlot (name : String)
  | slotSuppliedTwice (name : String)
  | slotNotFilled (name : String)
  | wrongSlots (declared expected : List String)
  | note (text : String)
  deriving DecidableEq, Repr

/-- The wording of a template fault. -/
def TemplateFault.message : TemplateFault → String
  | .unterminatedSlot => "unterminated slot"
  | .unnamedSlot => "empty slot name"
  | .unknownSlot name => s!"unknown slot '{name}'"
  | .slotSuppliedTwice name => s!"slot '{name}' supplied twice"
  | .slotNotFilled name => s!"slot '{name}' was not filled"
  | .wrongSlots declared expected =>
    let list (names : List String) := String.intercalate ", " names
    s!"declares slots [{list declared}], expected [{list expected}]"
  | .note text => text

/-- Why a configuration is invalid. -/
inductive ConfigFault where
  /-- The settings file cannot be read. -/
  | unreadableSettings
  | badExtension (extension : String)
  | badRelationsName (name : String)
  | stepTooShort (seconds : Int)
  | sequencerStepTooShort (seconds : Int)
  | sequencerStepTooLong (seconds : Int)
  /-- The next instant is past the calendar. -/
  | sequenceOverflow
  /-- The next instant is in a year without four digits. -/
  | yearWithoutKey (instant : String)
  | note (text : String)
  deriving DecidableEq, Repr

/-- The wording of a configuration fault. -/
def ConfigFault.message : ConfigFault → String
  | .unreadableSettings => "not a settings file"
  | .badExtension extension => s!"invalid file extension '{extension}'"
  | .badRelationsName name => s!"relations name '{name}' is not a valid identifier"
  | .stepTooShort seconds => s!"step_seconds must be at least 1, got {seconds}"
  | .sequencerStepTooShort seconds =>
    s!"sequencer step must be at least one second, got {seconds}"
  | .sequencerStepTooLong seconds => s!"sequencer step {seconds} is out of range"
  | .sequenceOverflow => "timestamp sequence overflowed"
  | .yearWithoutKey instant => s!"timestamp key for {instant} is outside years 0000 to 9999"
  | .note text => text

/-- What can go wrong. -/
inductive Error where
  /-- The schema document lacks something or has the wrong shape. -/
  | malformedSchema (fault : SchemaFault)
  /-- Two artifacts have one name. -/
  | duplicateArtifact (name : String) (clash : NameClash)
  /-- A foreign key of `table.column` refers to nothing. -/
  | unresolvedForeignKey (table column : String) (target : Unresolved)
  /-- The archive cannot be created, written or put in place. -/
  | archiveStorage (path reason : String)
  /-- A write to an archive that is closed. -/
  | archiveClosed (path : String)
  /-- A file that is no archive, or an archive without the entry asked for. -/
  | badArchive (reason : String)
  /-- A template is refused or cannot be filled. -/
  | template (name : String) (fault : TemplateFault)
  | fileWrite (path reason : String)
  | storage (reason : String)
  | fileRead (path reason : String)
  | jsonOutput (reason : String)
  | configuration (fault : ConfigFault)
  /-- A state that a run is not meant to reach. -/
  | internal (reason : String)
  deriving DecidableEq, Repr

namespace Error

/-- The wording of an error. -/
def message : Error → String
  | .malformedSchema fault => s!"Malformed schema: {fault.message}"
  | .duplicateArtifact name clash => s!"Duplicate artifact '{name}': {clash.message}"
  | .unresolvedForeignKey table column target =>
    s!"Unresolved foreign key on '{table}.{column}': {target.message}"
  | .archiveStorage path reason => s!"Archive IO error for '{path}': {reason}"
  | .archiveClosed path => s!"Archive already closed: {path}"
  | .badArchive reason => s!"Zip error: {reason}"
  | .template name fault => s!"Template rendering failed for '{name}': {fault.message}"
  | .fileWrite path reason => s!"Failed to write file '{path}': {reason}"
  | .storage reason => s!"IO error: {reason}"
  | .fileRead path reason => s!"Failed to read file '{path}': {reason}"
  | .jsonOutput reason => s!"JSON serialization error: {reason}"
  | .configuration fault => s!"Invalid configuration: {fault.message}"
  | .internal reason => s!"Internal error: {reason}"

/-- Whether the error rejects the schema itself. -/
def isSchemaError : Error → Bool
  | .malformedSchema _ | .duplicateArtifact _ _ | .unresolvedForeignKey _ _ _ => true
  | _ => false

/-- Whether the error comes from storage. -/
def isStorageError : Error → Bool
  | .archiveStorage _ _ | .badArchive _ | .fileWrite _ _ | .storage _ | .fileRead _ _ => true
  | _ => false

end Error

end SchemaMigration
