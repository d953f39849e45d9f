import SchemaMigration.Json.ReadError
import SchemaMigration.Keyed

/-!
# `SchemaMigration.Json.Decode`: typed values from trees

A `Decoder` turns a tree into a value of some type. It looks at the tree front to
back and reports the first fault, be it a wrong shape or a broken text.

A record is an object of its fields, or an array of them in declaration order.
Members that are no field are passed over: their values only have to be JSON, at
any depth and with numbers of any size. A value that is inspected as a whole is
held to more (`Tree.sound`).
-/

set_option autoImplicit false

namespace SchemaMigration.Json

/-! ### Whole trees -/

mutual

/-- Whether a value is complete JSON. -/
def Tree.complete : Tree → Bool
  | .broken => false
  | .null | .boolean _ | .number _ | .string _ => true
  | .array items => items.complete
  | .object members => members.complete

/-- Whether items are complete JSON. -/
def Items.complete : Items → Bool
  | .closed => true
  | .broken => false
  | .cons item rest => item.complete && rest.complete

/-- Whether members are complete JSON. -/
def Members.complete : Members → Bool
  | .closed => true
  | .broken => false
  | .cons _ value rest => value.complete && rest.complete

end

mutual

/-- Whether a value is complete JSON that nests at most `room` deep, holds no half of a
surrogate pair and no number past the greatest double. -/
def Tree.sound (room : Nat) : Tree → Bool
  | .broken => false
  | .null | .boolean _ => true
  | .number n => n != .tooLarge
  | .string text => text.isSome
  | .array items => 0 < room && items.sound (room - 1)
  | .object members => 0 < room && members.sound (room - 1)

/-- Whether all items are sound. -/
def Items.sound (room : Nat) : Items → Bool
  | .closed => true
  | .broken => false
  | .cons item rest => item.sound room && rest.sound room

/-- Whether all members are sound. -/
def Members.sound (room : Nat) : Members → Bool
  | .closed => true
  | .broken => false
  | .cons key value rest => key.isSome && value.sound room && rest.sound room

end

/-! ### Decoders -/

/-- How deep a text may nest. -/
def nestingLimit : Nat := 127

/-- Reads a value from a tree that may nest `room` deep. -/
abbrev Decoder (α : Type) := (room : Nat) → Tree → Except ReadError α

namespace Decoder

/-- What stands in a place where another type is expected. -/
def found? : Tree → Option Found
  | .broken => none
  | .null => some .null
  | .boolean b => some (.boolean b)
  | .number (.integer n) => some (.integer n)
  | .number (.real x) => some (.real x)
  | .number .tooLarge => none
  | .string text => text.map .string
  | .array _ => some .sequence
  | .object _ => some .map

/-- The error of a value that is not of the expected type. -/
def unexpected (expected : String) (tree : Tree) : ReadError :=
  match found? tree with
  | some found => .shape (.invalidType found expected)
  | none => .illFormed

/-- Reads a truth value. -/
def boolean : Decoder Bool
  | _, .boolean b => .ok b
  | _, tree => .error (unexpected "a boolean" tree)

/-- Reads a string. -/
def string : Decoder String
  | _, .string (some text) => .ok text
  | _, tree => .error (unexpected "a string" tree)

/-- Reads a value or `null`. -/
def optional {α : Type} (decode : Decoder α) : Decoder (Option α)
  | _, .null => .ok none
  | room, tree => return some (← decode room tree)

/-- Reads the items of an array. -/
def items {α : Type} (decode : Decoder α) (room : Nat) : Items → Except ReadError (List α)
  | .closed => .ok []
  | .broken => .error .illFormed
  | .cons item rest => do
    let a ← decode room item
    return a :: (← items decode room rest)

/-- Reads an array. -/
def list {α : Type} (decode : Decoder α) : Decoder (List α)
  | room + 1, .array found => items decode room found
  | 0, .array _ => .error .illFormed
  | _, tree => .error (unexpected "a sequence" tree)

/-- Reads the members of an object. -/
def entries {α : Type} (decode : Decoder α) (room : Nat) :
    Members → Except ReadError (List (String × α))
  | .closed => .ok []
  | .broken => .error .illFormed
  | .cons none _ _ => .error .illFormed
  | .cons (some key) value rest => do
    let a ← decode room value
    return (key, a) :: (← entries decode room rest)

/-- Reads an object whose keys are free. Of a key that comes twice the last value counts. -/
def map {α : Type} (decode : Decoder α) : Decoder (Keyed α)
  | room + 1, .object found => return .ofList (← entries decode room found)
  | 0, .object _ => .error .illFormed
  | _, tree => .error (unexpected "a map" tree)

/-- Reads a value that is inspected as a whole. -/
def whole {α : Type} (read : Tree → Except ShapeError α) : Decoder α
  | room, tree =>
    if tree.sound room then (read tree).mapError .shape else .error .illFormed

/-- Reads one of a list of names. The name stands alone or as the key of an object with the
value `null`. An object that does not start with a key is no JSON. -/
def name {α : Type} (find : String → Option α) (known : List String) : Decoder α
  | _, .string (some text) => variant text
  | 0, _ => .error .illFormed
  | _ + 1, .object (.cons (some text) value rest) => do
    -- The name is looked up before what follows it is read, so an unknown one is told first.
    let a ← variant text
    match value, rest with
    | .null, .closed => return a
    | .null, _ => .error .illFormed
    | value, _ => .error (unexpected "unit" value)
  | _, _ => .error .illFormed
where
  /-- The value with a name. -/
  variant (text : String) : Except ReadError α :=
    match find text with
    | some a => .ok a
    | none => .error (.shape (.unknownVariant text known))

/-! ### Records -/

/-- A field of a record that is put together in a draft of type `σ`. -/
structure Field (σ : Type) where
  name : String
  /-- Whether the field may be absent. -/
  optional : Bool
  /-- Whether the draft has the field. -/
  filled : σ → Bool
  /-- Reads the field into the draft. -/
  read : Nat → Tree → σ → Except ReadError σ

/-- A field whose value is kept in the draft as an `Option`. -/
def Field.of {σ α : Type} (name : String) (optional : Bool) (decode : Decoder α)
    (get : σ → Option α) (set : σ → α → σ) : Field σ where
  name
  optional
  filled draft := (get draft).isSome
  read room tree draft := return set draft (← decode room tree)

/-- Reads the members of a record into a draft. -/
def recordMembers {σ : Type} (fields : List (Field σ)) (room : Nat) :
    Members → σ → Except ReadError σ
  | .closed, draft => .ok draft
  | .broken, _ => .error .illFormed
  | .cons none _ _, _ => .error .illFormed
  | .cons (some key) value rest, draft =>
    match fields.find? fun field => field.name == key with
    | none =>
      -- An unknown member is skipped, but its value has to be complete.
      if value.complete then recordMembers fields room rest draft else .error .illFormed
    | some field =>
      if field.filled draft then .error (.shape (.duplicateField key))
      else do recordMembers fields room rest (← field.read room value draft)

/-- Reads the fields of a record in declaration order into a draft. Fields from the first
missing one on have to be optional. -/
def recordItems {σ : Type} (expected : String) (room : Nat) :
    List (Field σ) → Nat → Items → σ → Except ReadError σ
  | [], _, .closed, draft => .ok draft
  | [], _, _, _ => .error .illFormed
  | _ :: _, _, .broken, _ => .error .illFormed
  | field :: fields, index, .closed, draft =>
    if field.optional then recordItems expected room fields (index + 1) .closed draft
    else .error (.shape (.invalidLength index expected))
  | field :: fields, index, .cons item rest, draft => do
    recordItems expected room fields (index + 1) rest (← field.read room item draft)

/-- Reads a record called `title`. -/
def record {σ α : Type} (title : String) (fields : List (Field σ)) (empty : σ)
    (finish : σ → Except ShapeError α) : Decoder α
  | room + 1, .object members => do
    (finish (← recordMembers fields room members empty)).mapError .shape
  | room + 1, .array found => do
    let expected := s!"struct {title} with {fields.length} elements"
    (finish (← recordItems expected room fields 0 found empty)).mapError .shape
  | 0, .object _ => .error .illFormed
  | 0, .array _ => .error .illFormed
  | _, tree => .error (unexpected s!"struct {title}" tree)

/-- A field that a record cannot do without. -/
def required {α : Type} (name : String) : Option α → Except ShapeError α
  | some a => .ok a
  | none => .error (.missingField name)

end Decoder

/-- Reads a text with a decoder. Nothing but gaps may follow the value. -/
def decodeText {α : Type} (decode : Decoder α) (text : String) : Except ReadError α := do
  let document := Document.ofText text
  let a ← decode nestingLimit document.root
  if document.trailing then .error .illFormed else return a

end SchemaMigration.Json
