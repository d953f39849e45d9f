/-!
# `SchemaMigration.Schema.ColumnType`: types of columns

The types are named for the methods of the schema builder that make such a
column.
-/

set_option autoImplicit false

namespace SchemaMigration

/-- The type of a column. -/
inductive ColumnType where
  | bigInteger
  | binary
  | boolean
  | char
  | date
  | dateTime
  | dateTimeTz
  | decimal
  | double
  | float
  | integer
  | ipAddress
  | json
  | jsonb
  | longText
  | macAddress
  | mediumInteger
  | mediumText
  | smallInteger
  | string
  | text
  | time
  | timeTz
  | timestamp
  | timestampTz
  | tinyInteger
  | uuid
  | year
  deriving DecidableEq, Repr

namespace ColumnType

/-- All column types, in the order in which messages list them. -/
def all : List ColumnType :=
  [.bigInteger, .binary, .boolean, .char, .date, .dateTime, .dateTimeTz, .decimal, .double,
    .float, .integer, .ipAddress, .json, .jsonb, .longText, .macAddress, .mediumInteger,
    .mediumText, .smallInteger, .string, .text, .time, .timeTz, .timestamp, .timestampTz,
    .tinyInteger, .uuid, .year]

/-- The builder method of a type. -/
def name : ColumnType → String
  | .bigInteger => "bigInteger"
  | .binary => "binary"
  | .boolean => "boolean"
  | .char => "char"
  | .date => "date"
  | .dateTime => "dateTime"
  | .dateTimeTz => "dateTimeTz"
  | .decimal => "decimal"
  | .double => "double"
  | .float => "float"
  | .integer => "integer"
  | .ipAddress => "ipAddress"
  | .json => "json"
  | .jsonb => "jsonb"
  | .longText => "longText"
  | .macAddress => "macAddress"
  | .mediumInteger => "mediumInteger"
  | .mediumText => "mediumText"
  | .smallInteger => "smallInteger"
  | .string => "string"
  | .text => "text"
  | .time => "time"
  | .timeTz => "timeTz"
  | .timestamp => "timestamp"
  | .timestampTz => "timestampTz"
  | .tinyInteger => "tinyInteger"
  | .uuid => "uuid"
  | .year => "year"

/-- The names of all types. -/
def names : List String :=
  all.map name

/-- The type with a name. -/
def ofName? (text : String) : Option ColumnType :=
  all.find? fun type => type.name == text

theorem mem_all (type : ColumnType) : type ∈ all := by
  cases type <;> decide

/-- Whether the builder method takes a length. -/
def takesLength : ColumnType → Bool
  | .char | .string => true
  | _ => false

/-- The builder method of an integer type that counts up by itself. -/
def increments? : ColumnType → Option String
  | .integer => some "increments"
  | .bigInteger => some "bigIncrements"
  | .mediumInteger => some "mediumIncrements"
  | .smallInteger => some "smallIncrements"
  | .tinyInteger => some "tinyIncrements"
  | _ => none

end ColumnType

end SchemaMigration
