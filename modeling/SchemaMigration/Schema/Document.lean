import SchemaMigration.Schema.Reading
import SchemaMigration.Schema.Writing

/-!
# `SchemaMigration.Schema.Document`: schemas as documents

A schema is read from the text or the bytes of a document, and keeps the text. It
is written from its model. Its snapshot is the text it was read from, down to
keys and gaps that the model knows nothing of, or the written model when there is
no such text.
-/

set_option autoImplicit false

namespace SchemaMigration

/-- The name of a schema's snapshot in an archive. -/
def snapshotName : String := "schema.json"

namespace Schema

/-- Reads a schema from the text of a document. -/
def ofText (text : String) : Except Error Schema :=
  match Json.decodeText Model.decoder text with
  | .ok model => .ok { model with source := some text }
  | .error error => .error (.malformedSchema (.unreadable error))

/-- Reads a schema from the bytes of a document. -/
def ofBytes (bytes : List UInt8) : Except Error Schema :=
  match Text.Utf8.decode bytes with
  | .ok text => ofText text
  | .error fault => .error (.malformedSchema (.notUtf8 fault))

/-- The indented document of a schema's model. -/
def toText (schema : Schema) : String :=
  schema.toModel.toValue.pretty

/-- The document of a schema's model without gaps. -/
def toCompactText (schema : Schema) : String :=
  schema.toModel.toValue.compact

/-- The document that stands for a schema. -/
def snapshot (schema : Schema) : String :=
  schema.source.getD schema.toText

end Schema

end SchemaMigration
