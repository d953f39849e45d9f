import SchemaMigration.Error
import SchemaMigration.Text.Blank
import SchemaMigration.Text.Find

/-!
# `SchemaMigration.Migration.Template`: texts with slots

A slot is a name between double braces. A template is the list of its segments,
texts and slots in turn. To fill it, every slot needs exactly one value, and a
value is put in as it is: braces in it open no slot.
-/

set_option autoImplicit false

namespace SchemaMigration

/-- A part of a template. -/
inductive Segment where
  | text (text : String)
  | slot (name : String)
  deriving DecidableEq, Repr

/-- A text with slots. -/
structure Template where
  name : String
  segments : List Segment
  deriving DecidableEq, Repr

namespace Template

/-- What opens a slot. -/
def opening : List Char := ['\x7b', '\x7b']

/-- What closes a slot. -/
def closing : List Char := ['\x7d', '\x7d']

theorem length_of_cut? {mark text before after : List Char}
    (h : Text.cut? mark text = some (before, after)) :
    after.length + mark.length ≤ text.length := by
  rw [Text.eq_append_of_cut? h]
  simp
  omega

/-- A segment for a text that is not empty. -/
def textSegments (text : List Char) : List Segment :=
  if text.isEmpty then [] else [.text (String.ofList text)]

/-- The segments of a text. A slot ends at the nearest closing mark, and blanks around its
name do not count. -/
def segmentsOf (text : List Char) : Except TemplateFault (List Segment) :=
  match _opens : Text.cut? opening text with
  | none => .ok (textSegments text)
  | some (before, after) =>
    match _closes : Text.cut? closing after with
    | none => .error .unterminatedSlot
    | some (slot, rest) =>
      -- An unclosed slot is told before a nameless one, and a nameless one before those behind it.
      let name := Text.trimChars slot
      if name.isEmpty then .error .unnamedSlot
      else do
        return textSegments before ++ .slot (String.ofList name) :: (← segmentsOf rest)
termination_by text.length
decreasing_by
  have := length_of_cut? _opens
  have := length_of_cut? _closes
  simp only [opening, closing, List.length_cons, List.length_nil] at *
  omega

/-- Reads a template. -/
def ofText (name source : String) : Except Error Template :=
  match segmentsOf source.toList with
  | .ok segments => .ok { name, segments }
  | .error fault => .error (.template name fault)

/-- The names of slots among segments, without those in `seen`, each once. -/
def newSlots (seen : List String) : List Segment → List String
  | [] => []
  | .text _ :: rest => newSlots seen rest
  | .slot name :: rest =>
    if name ∈ seen then newSlots seen rest else name :: newSlots (name :: seen) rest

/-- The names of the slots, in the order in which they first stand. -/
def slots (template : Template) : List String :=
  newSlots [] template.segments

/-- Whether the template has a slot of a name. -/
def hasSlot (template : Template) (name : String) : Bool :=
  template.slots.contains name

/-- Checks the names of values: each is a slot, and none is in `seen` or comes twice. -/
def checkValues (template : Template) (seen : List String) :
    List (String × String) → Except TemplateFault Unit
  | [] => .ok ()
  | (name, _) :: rest =>
    if !template.hasSlot name then .error (.unknownSlot name)
    else if name ∈ seen then .error (.slotSuppliedTwice name)
    else template.checkValues (name :: seen) rest

/-- The text of a segment when slots have these values. -/
def fillSegment (values : List (String × String)) : Segment → String
  | .text text => text
  | .slot name => (values.lookup name).getD ""

/-- Fills the slots with values. -/
def fill (template : Template) (values : List (String × String)) :
    Except TemplateFault String := do
  template.checkValues [] values
  match template.slots.find? fun slot => (values.lookup slot).isNone with
  | some missing => .error (.slotNotFilled missing)
  | none => return String.join (template.segments.map (fillSegment values))

/-- Fills the slots with values. -/
def render (template : Template) (values : List (String × String)) : Except Error String :=
  (template.fill values).mapError (.template template.name)

end Template

end SchemaMigration
