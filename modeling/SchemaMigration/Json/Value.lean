import SchemaMigration.Number.DecimalText
import SchemaMigration.Json.Quoted

/-!
# `SchemaMigration.Json.Value`: JSON values and their texts

A complete JSON value and its two texts. The compact text has no gaps. The
indented text puts each item and each member on a line of its own, two spaces
deeper than the line that opens it. Empty arrays and objects stay on one line.
-/

set_option autoImplicit false

namespace SchemaMigration.Json

open SchemaMigration.Number

/-- A JSON value. The members of an object keep their order. -/
inductive Value where
  | null
  | boolean (b : Bool)
  | integer (n : Int)
  | real (x : Binary64)
  | string (text : String)
  | array (items : List Value)
  | object (members : List (String × Value))

namespace Value

/-- The text of a truth value. -/
def booleanText (b : Bool) : String :=
  if b then "true" else "false"

/-- A string between quotes. -/
def stringText (text : String) : String :=
  String.ofList (Quoted.encode text.toList)

mutual

/-- The text of a value without gaps. -/
def compact : Value → String
  | .null => "null"
  | .boolean b => booleanText b
  | .integer n => toString n
  | .real x => x.jsonText
  | .string text => stringText text
  | .array items => "[" ++ String.intercalate "," (compactItems items) ++ "]"
  | .object members => "\x7b" ++ String.intercalate "," (compactMembers members) ++ "\x7d"

/-- The texts of items without gaps. -/
def compactItems : List Value → List String
  | [] => []
  | item :: rest => item.compact :: compactItems rest

/-- The texts of members without gaps. -/
def compactMembers : List (String × Value) → List String
  | [] => []
  | (key, value) :: rest =>
    (stringText key ++ ":" ++ value.compact) :: compactMembers rest

end

/-- A line break and the indentation of a depth. -/
def newline (depth : Nat) : String :=
  String.ofList ('\n' :: List.replicate (2 * depth) ' ')

/-- Entries on lines of their own, between brackets at the given depth. -/
def block (opening closing : String) (depth : Nat) (entries : List String) : String :=
  if entries.isEmpty then opening ++ closing
  else
    opening ++ newline (depth + 1) ++
      String.intercalate ("," ++ newline (depth + 1)) entries ++ newline depth ++ closing

mutual

/-- The indented text of a value that starts at the given depth. -/
def indented (depth : Nat) : Value → String
  | .null => "null"
  | .boolean b => booleanText b
  | .integer n => toString n
  | .real x => x.jsonText
  | .string text => stringText text
  | .array items => block "[" "]" depth (indentedItems (depth + 1) items)
  | .object members => block "\x7b" "\x7d" depth (indentedMembers (depth + 1) members)

/-- The indented texts of items. -/
def indentedItems (depth : Nat) : List Value → List String
  | [] => []
  | item :: rest => item.indented depth :: indentedItems depth rest

/-- The indented texts of members. -/
def indentedMembers (depth : Nat) : List (String × Value) → List String
  | [] => []
  | (key, value) :: rest =>
    (stringText key ++ ": " ++ value.indented depth) :: indentedMembers depth rest

end

/-- The indented text of a value. -/
def pretty (value : Value) : String :=
  value.indented 0

end Value

end SchemaMigration.Json
