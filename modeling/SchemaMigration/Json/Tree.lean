import SchemaMigration.Json.Token

/-!
# `SchemaMigration.Json.Tree`: what a JSON text says, as far as it goes

A `Tree` is a JSON value that may break off. A text that stops being JSON still
has a tree: the part before the fault, with `broken` where the fault is. A reader
that walks the tree front to back therefore meets a wrong shape and a broken text
in the order in which they stand in the text.

The tree is built by a machine that takes one token at a time. Its stack holds
the arrays and objects that are still open.
-/

set_option autoImplicit false

namespace SchemaMigration.Json

mutual

/-- A JSON value, as far as the text goes. -/
inductive Tree where
  /-- No value can be read here. -/
  | broken
  | null
  | boolean (b : Bool)
  | number (n : Numeral)
  /-- A string, without its text when it holds half a surrogate pair. -/
  | string (text : Option String)
  | array (items : Items)
  | object (members : Members)

/-- The items of an array and how they end. -/
inductive Items where
  /-- The array ends here. -/
  | closed
  /-- Neither an item nor the end of the array can be read here. -/
  | broken
  | cons (item : Tree) (rest : Items)

/-- The members of an object and how they end. -/
inductive Members where
  /-- The object ends here. -/
  | closed
  /-- Neither a member nor the end of the object can be read here. -/
  | broken
  /-- A member. The key has no text when it holds half a surrogate pair. -/
  | cons (key : Option String) (value : Tree) (rest : Members)

end

deriving instance Repr for Tree

instance : Inhabited Tree := ⟨.broken⟩

/-- The items `reversed`, last first, before `rest`. -/
def Items.prepend (reversed : List Tree) (rest : Items) : Items :=
  reversed.foldl (fun rest item => .cons item rest) rest

/-- The members `reversed`, last first, before `rest`. -/
def Members.prepend (reversed : List (Option String × Tree)) (rest : Members) : Members :=
  reversed.foldl (fun rest (key, value) => .cons key value rest) rest

/-- An array or object whose next value is being read. What it holds so far is kept last
first. -/
inductive Frame where
  | array (before : List Tree)
  | object (before : List (Option String × Tree)) (key : Option String)

/-- What the machine expects next. -/
inductive Place where
  /-- A value. -/
  | value
  /-- The first item of an array, or its end. -/
  | item
  /-- A comma or the end of an array. -/
  | afterItem (before : List Tree)
  /-- A key. The object may also end when it is the first. -/
  | key (before : List (Option String × Tree)) (first : Bool)
  /-- The colon behind a key. -/
  | colon (before : List (Option String × Tree)) (key : Option String)
  /-- A comma or the end of an object. -/
  | afterMember (before : List (Option String × Tree))

/-- The state of the machine: what it expects, inside which open arrays and objects. -/
structure Builder where
  place : Place
  frames : List Frame

/-- What one token does to the machine. -/
inductive Step where
  | next (state : Builder)
  /-- The root value is complete. -/
  | done (root : Tree)
  /-- The token does not fit. -/
  | stop

namespace Builder

/-- A machine that has read nothing. -/
def start : Builder := ⟨.value, []⟩

/-- Puts a complete value into the innermost open array or object. -/
def deliver (value : Tree) : List Frame → Step
  | [] => .done value
  | .array before :: frames => .next ⟨.afterItem (value :: before), frames⟩
  | .object before key :: frames => .next ⟨.afterMember ((key, value) :: before), frames⟩

/-- Reads the first token of a value. -/
def beginValue (frames : List Frame) : Token → Step
  | .null => deliver .null frames
  | .boolean b => deliver (.boolean b) frames
  | .number n => deliver (.number n) frames
  | .string text => deliver (.string text) frames
  | .openArray => .next ⟨.item, frames⟩
  | .openObject => .next ⟨.key [] true, frames⟩
  | _ => .stop

/-- Reads one token. -/
def step (state : Builder) (token : Token) : Step :=
  match state.place with
  | .value => beginValue state.frames token
  | .item =>
    -- An array may end before its first item, but not behind a comma.
    match token with
    | .closeArray => deliver (.array .closed) state.frames
    | token => beginValue (.array [] :: state.frames) token
  | .afterItem before =>
    match token with
    | .comma => .next ⟨.value, .array before :: state.frames⟩
    | .closeArray => deliver (.array (Items.prepend before .closed)) state.frames
    | _ => .stop
  | .key before first =>
    match token with
    | .string key => .next ⟨.colon before key, state.frames⟩
    | .closeObject =>
      if first then deliver (.object (Members.prepend before .closed)) state.frames else .stop
    | _ => .stop
  | .colon before key =>
    match token with
    | .colon => .next ⟨.value, .object before key :: state.frames⟩
    | _ => .stop
  | .afterMember before =>
    match token with
    | .comma => .next ⟨.key before false, state.frames⟩
    | .closeObject => deliver (.object (Members.prepend before .closed)) state.frames
    | _ => .stop

/-- The value being read when the text breaks off. -/
def Place.breakOff : Place → Tree
  | .value => .broken
  | .item => .array .broken
  | .afterItem before => .array (Items.prepend before .broken)
  | .key before _ => .object (Members.prepend before .broken)
  | .colon before key => .object (Members.prepend before (.cons key .broken .broken))
  | .afterMember before => .object (Members.prepend before .broken)

/-- An open array or object around a value that breaks off. -/
def Frame.breakOff (value : Tree) : Frame → Tree
  | .array before => .array (Items.prepend before (.cons value .broken))
  | .object before key => .object (Members.prepend before (.cons key value .broken))

/-- The tree of a text that breaks off in this state. -/
def breakOff (state : Builder) : Tree :=
  state.frames.foldl Frame.breakOff (Place.breakOff state.place)

end Builder

/-- The tree of a text, and whether anything but gaps follows it. -/
structure Document where
  root : Tree
  trailing : Bool

namespace Document

/-- Runs the machine over tokens. -/
def run (state : Builder) : List Token → Document
  | [] => ⟨state.breakOff, false⟩
  | token :: rest =>
    match state.step token with
    | .next state => run state rest
    | .done root => ⟨root, !rest.isEmpty⟩
    | .stop => ⟨state.breakOff, false⟩

/-- The document that a text holds. -/
def ofText (text : String) : Document :=
  run .start (tokens text.toList)

end Document

end SchemaMigration.Json
