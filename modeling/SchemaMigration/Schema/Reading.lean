import SchemaMigration.Json.Decode
import SchemaMigration.Schema.Basic
import SchemaMigration.Text.Blank

/-!
# `SchemaMigration.Schema.Reading`: schemas from JSON

Decoders for the parts of a designer's document. A record is collected in a
draft, which holds the fields met so far. Fields that are absent take the value
of an empty form.
-/

set_option autoImplicit false

namespace SchemaMigration

open SchemaMigration.Json
open SchemaMigration.Number

/-- Reads an identifier: a 64-bit integer or a string. -/
def Identifier.decoder : Decoder Identifier :=
  Decoder.whole fun tree =>
    match tree with
    | .number (.integer n) =>
      if n ≤ Int64.maxValue.toInt then .ok (.number (Int64.ofInt n))
      else .error (.noAlternative "Identifier")
    | .string (some s) => .ok (.text s)
    | _ => .error (.noAlternative "Identifier")

/-- Reads the name of a column type. -/
def ColumnType.decoder : Decoder ColumnType :=
  Decoder.name ColumnType.ofName? ColumnType.names

/-- Reads a default value: a truth value, a number or a string. An integer past 64-bit words
is a double. -/
def DefaultValue.decoder : Decoder DefaultValue :=
  Decoder.whole fun tree =>
    match tree with
    | .boolean b => .ok (.boolean b)
    | .number (.integer n) =>
      -- The reader of numbers keeps integers up to 64 bits without a sign, which is one bit more.
      if n ≤ Int64.maxValue.toInt then .ok (.integer (Int64.ofInt n))
      else
        match Binary64.ofDecimal? false n.toNat 0 with
        | some x => .ok (.real x)
        | none => .error (.noAlternative "DefaultValue")
    | .number (.real x) => .ok (.real x)
    | .string (some s) => .ok (.text s)
    | _ => .error (.noAlternative "DefaultValue")

namespace Column

/-- The 32-bit number that a text spells: digits, with an optional plus sign. -/
def wordOfDigits? (text : List Char) : Option UInt32 :=
  let digits := match text with
    | '+' :: rest => rest
    | rest => rest
  if digits.isEmpty || !digits.all Char.isDigit then none
  else
    let n := Text.digitsValue digits
    if n < UInt32.size then some (UInt32.ofNat n) else none

/-- The length that a text spells. Blanks around it do not count, and a blank text is no
length. -/
def lengthOfText (text : String) : Except ShapeError (Option UInt32) :=
  let trimmed := Text.trimChars text.toList
  if trimmed.isEmpty then .ok none
  else
    match wordOfDigits? trimmed with
    | some n => .ok (some n)
    | none => .error (.columnLength (String.ofList trimmed))

/-- Reads a length: a 32-bit number, its text, or `null`. -/
def lengthDecoder : Decoder (Option UInt32)
  | room, tree => return (← Decoder.optional givenLength room tree).join
where
  /-- Reads a length that is not `null`. -/
  givenLength : Decoder (Option UInt32) :=
    Decoder.whole fun tree =>
    match tree with
    | .number (.integer n) =>
      if 0 ≤ n ∧ n < UInt32.size then .ok (some (UInt32.ofNat n.toNat))
      else .error (.noAlternative "RawLength")
    | .string (some text) => lengthOfText text
    | _ => .error (.noAlternative "RawLength")

end Column

namespace Target

/-- The fields of a target met so far. -/
structure Draft where
  id : Option (Option Identifier) := none
  name : Option String := none

/-- The fields of a target. -/
def fields : List (Decoder.Field Draft) := [
  .of "id" true (Decoder.optional Identifier.decoder) (·.id) fun d v => { d with id := some v },
  .of "name" true Decoder.string (·.name) fun d v => { d with name := some v }]

/-- Reads one end of a foreign key. -/
def decoder : Decoder Target :=
  Decoder.record "ForeignKeyTarget" fields {} fun draft =>
    .ok { id := draft.id.getD none, name := draft.name.getD "" }

end Target

namespace ForeignKey

/-- The fields of a foreign key met so far. -/
structure Draft where
  table : Option Target := none
  column : Option Target := none

/-- The fields of a foreign key. -/
def fields : List (Decoder.Field Draft) := [
  .of "on" true Target.decoder (·.table) fun d v => { d with table := some v },
  .of "references" true Target.decoder (·.column) fun d v => { d with column := some v }]

/-- Reads a foreign key. -/
def decoder : Decoder ForeignKey :=
  Decoder.record "ForeignKey" fields {} fun draft =>
    .ok { table := draft.table.getD {}, column := draft.column.getD {} }

end ForeignKey

namespace Column

/-- The fields of a column met so far. -/
structure Draft where
  name : Option String := none
  type : Option ColumnType := none
  length : Option (Option UInt32) := none
  nullable : Option Bool := none
  unique : Option Bool := none
  index : Option Bool := none
  unsigned : Option Bool := none
  autoIncrement : Option Bool := none
  default : Option (Option DefaultValue) := none
  comment : Option (Option String) := none
  foreignKey : Option (Option ForeignKey) := none

/-- The fields of a column. -/
def fields : List (Decoder.Field Draft) := [
  .of "name" false Decoder.string (·.name) fun d v => { d with name := some v },
  .of "type" false ColumnType.decoder (·.type) fun d v => { d with type := some v },
  .of "length" true lengthDecoder (·.length) fun d v => { d with length := some v },
  .of "nullable" true Decoder.boolean (·.nullable) fun d v => { d with nullable := some v },
  .of "unique" true Decoder.boolean (·.unique) fun d v => { d with unique := some v },
  .of "index" true Decoder.boolean (·.index) fun d v => { d with index := some v },
  .of "unsigned" true Decoder.boolean (·.unsigned) fun d v => { d with unsigned := some v },
  .of "autoInc" true Decoder.boolean (·.autoIncrement)
    fun d v => { d with autoIncrement := some v },
  .of "defValue" true (Decoder.optional DefaultValue.decoder) (·.default)
    fun d v => { d with default := some v },
  .of "comment" true (Decoder.optional Decoder.string) (·.comment)
    fun d v => { d with comment := some v },
  .of "foreignKey" true (Decoder.optional ForeignKey.decoder) (·.foreignKey)
    fun d v => { d with foreignKey := some v }]

/-- The column that a draft describes. -/
def Draft.finish (draft : Draft) : Except ShapeError Column := do
  let name ← Decoder.required "name" draft.name
  let type ← Decoder.required "type" draft.type
  return {
    name, type
    length := draft.length.join
    nullable := draft.nullable.getD false
    unique := draft.unique.getD false
    index := draft.index.getD false
    unsigned := draft.unsigned.getD false
    autoIncrement := draft.autoIncrement.getD false
    default := draft.default.join
    comment := draft.comment.join
    foreignKey := draft.foreignKey.join }

/-- Reads a column. -/
def decoder : Decoder Column :=
  Decoder.record "Column" fields {} Draft.finish

end Column

namespace Table

/-- The fields of a table met so far. -/
structure Draft where
  id : Option Identifier := none
  name : Option String := none
  timestamps : Option Bool := none
  softDelete : Option Bool := none

/-- The fields of a table. -/
def fields : List (Decoder.Field Draft) := [
  .of "id" false Identifier.decoder (·.id) fun d v => { d with id := some v },
  .of "name" false Decoder.string (·.name) fun d v => { d with name := some v },
  .of "timeStamp" true Decoder.boolean (·.timestamps) fun d v => { d with timestamps := some v },
  .of "softDelete" true Decoder.boolean (·.softDelete)
    fun d v => { d with softDelete := some v }]

/-- The table that a draft describes. -/
def Draft.finish (draft : Draft) : Except ShapeError Table := do
  let id ← Decoder.required "id" draft.id
  let name ← Decoder.required "name" draft.name
  return {
    id, name
    timestamps := draft.timestamps.getD false
    softDelete := draft.softDelete.getD false }

/-- Reads a table. -/
def decoder : Decoder Table :=
  Decoder.record "Table" fields {} Draft.finish

end Table

namespace Model

/-- The fields of a model met so far. -/
structure Draft where
  tables : Option (List Table) := none
  columns : Option (Keyed (List Column)) := none

/-- The fields of a model. -/
def fields : List (Decoder.Field Draft) := [
  .of "tables" false (Decoder.list Table.decoder) (·.tables)
    fun d v => { d with tables := some v },
  .of "columns" false (Decoder.map (Decoder.list Column.decoder)) (·.columns)
    fun d v => { d with columns := some v }]

/-- The model that a draft describes. -/
def Draft.finish (draft : Draft) : Except ShapeError Model := do
  let tables ← Decoder.required "tables" draft.tables
  let columns ← Decoder.required "columns" draft.columns
  return { tables, columns }

/-- Reads a model. -/
def decoder : Decoder Model :=
  Decoder.record "Schema" fields {} Draft.finish

end Model

end SchemaMigration
