import Mathlib.Data.List.Chain
import SchemaMigration.Migration.Template
import SchemaMigration.Proofs.FirstAppearances
import SchemaMigration.Proofs.Outcome
import SchemaMigration.Proofs.Text.Cut
import SchemaMigration.Proofs.Text.Trimmed

/-!
# `SchemaMigration.Proofs.Migration.TemplateReading`: a template is what its text says

`Scans` says what it means to go through a text from left to right: from the first mark that
opens a slot to the nearest mark that closes it, and on from there. The pieces on the way are the
texts and the slots as they are spelled. Put together again they are the text
(`Scans.flatMap_written`). A template is read when the text can be scanned and no slot is
without a name, and its segments are the pieces with blanks around the names left out
(`segmentsOf_eq_ok_iff`).

The other way round, segments are written with every slot spelled as its name. They are read back
when the writing does not run marks into each other (`segmentsOf_written`). `Printable` says when
this is so. What `Scans` finds is printable, except that a name may have a brace at its end or two
in the middle.

`ofText_scanned` has both directions.
-/

set_option autoImplicit false

namespace SchemaMigration

open SchemaMigration.Text (FirstAt cut?_eq_some_iff cut?_eq_none_iff firstAt_doubled trimChars)

/-- A part of the text of a template. A slot is what stands between its marks. -/
inductive Piece where
  | text (text : List Char)
  | slot (spelling : List Char)
  deriving DecidableEq, Repr

namespace Piece

/-- What stands in the text. -/
def written : Piece → List Char
  | .text part => part
  | .slot spelling => Template.opening ++ spelling ++ Template.closing

/-- The segment that a piece is read as. Blanks around the name of a slot do not count. -/
def segment : Piece → Segment
  | .text part => .text (String.ofList part)
  | .slot spelling => .slot (String.ofList (trimChars spelling))

/-- A piece for a text that is not empty. -/
def ofText (text : List Char) : List Piece :=
  if text.isEmpty then [] else [.text text]

theorem flatMap_written_ofText (text : List Char) : (ofText text).flatMap written = text := by
  cases text <;> simp [ofText, written]

theorem map_segment_ofText (text : List Char) :
    (ofText text).map segment = Template.textSegments text := by
  cases text <;> rfl

theorem slot_not_mem_ofText (spelling text : List Char) : .slot spelling ∉ ofText text := by
  cases text <;> simp [ofText]

theorem text_mem_ofText {text part : List Char} (h : .text part ∈ ofText text) :
    part = text ∧ text ≠ [] := by
  cases text <;> simp_all [ofText]

end Piece

namespace Segment

/-- The name of a slot. -/
def slotName? : Segment → Option String
  | .text _ => none
  | .slot name => some name

/-- A slot is spelled as its name. -/
def piece : Segment → Piece
  | .text part => .text part.toList
  | .slot name => .slot name.toList

/-- A text that is not empty is its piece. -/
theorem ofText_toList {part : String} (h : part ≠ "") :
    Piece.ofText part.toList = [(Segment.text part).piece] := by
  simp [Piece.ofText, h, piece]

/-- The text of a segment. -/
def written (segment : Segment) : String :=
  String.ofList segment.piece.written

/-- A segment that can be told from what stands around it. A text is not empty and opens no slot.
A name is trimmed and does not close its slot too early. -/
def Plain : Segment → Prop
  | .text part => part ≠ "" ∧ ¬ Template.opening <:+: part.toList
  | .slot name => name ≠ "" ∧ trimChars name.toList = name.toList ∧
      ¬ Template.closing <:+: name.toList ∧ name.toList.getLast? ≠ some '\x7d'

instance : DecidablePred Plain
  | .text _ => inferInstanceAs (Decidable (_ ∧ _))
  | .slot _ => inferInstanceAs (Decidable (_ ∧ _))

/-- Two segments that stay apart when the second is written behind the first. -/
def Apart : Segment → Segment → Prop
  | .text _, .text _ => False
  | .text part, .slot _ => part.toList.getLast? ≠ some '\x7b'
  | .slot _, _ => True

instance : DecidableRel Apart
  | .text _, .text _ => inferInstanceAs (Decidable False)
  | .text _, .slot _ => inferInstanceAs (Decidable (_ ≠ _))
  | .slot _, _ => inferInstanceAs (Decidable True)

end Segment

namespace Template

open Segment (slotName?)

/-! ### Scanning -/

/-- The text consists of these pieces when it is gone through from left to right. Every slot that
is opened is closed by the nearest mark. -/
inductive Scans : List Char → List Piece → Prop
  | done {text : List Char} (last : ¬ opening <:+: text) : Scans text (Piece.ofText text)
  | slot {text before after spelling rest : List Char} {pieces : List Piece}
      (opens : FirstAt opening text before after) (closes : FirstAt closing after spelling rest)
      (scans : Scans rest pieces) : Scans text (Piece.ofText before ++ .slot spelling :: pieces)

variable {text : List Char} {pieces : List Piece} {segments : List Segment} {template : Template}

/-- Every slot has a name. -/
def Named (pieces : List Piece) : Prop :=
  ∀ spelling, .slot spelling ∈ pieces → trimChars spelling ≠ []

theorem named_ofText (text : List Char) : Named (Piece.ofText text) :=
  fun spelling hmem => absurd hmem (Piece.slot_not_mem_ofText spelling text)

theorem named_slot_iff {before spelling : List Char} :
    Named (Piece.ofText before ++ .slot spelling :: pieces) ↔
      trimChars spelling ≠ [] ∧ Named pieces := by
  constructor
  · exact fun h => ⟨h spelling (by simp), fun other hmem => h other (by simp [hmem])⟩
  · rintro ⟨hname, hrest⟩ other hmem
    rcases List.mem_append.1 hmem with hmem | hmem
    · exact absurd hmem (Piece.slot_not_mem_ofText other before)
    · rcases List.mem_cons.1 hmem with heq | hmem
      · obtain rfl := Piece.slot.inj heq
        exact hname
      · exact hrest other hmem

/-- The pieces put together again are the text. -/
theorem Scans.flatMap_written (h : Scans text pieces) : pieces.flatMap Piece.written = text := by
  induction h with
  | done => exact Piece.flatMap_written_ofText _
  | slot opens closes _ ih =>
    rw [List.flatMap_append, List.flatMap_cons, Piece.flatMap_written_ofText, ih, Piece.written,
      opens.eq_append, closes.eq_append]
    simp only [List.append_assoc]

/-- The texts between the slots are not empty and open no slot. -/
theorem Scans.text_of_mem (h : Scans text pieces) {part : List Char} (hpart : .text part ∈ pieces) :
    part ≠ [] ∧ ¬ opening <:+: part := by
  induction h with
  | done last =>
    obtain ⟨rfl, hne⟩ := Piece.text_mem_ofText hpart
    exact ⟨hne, last⟩
  | slot opens _ _ ih =>
    rcases List.mem_append.1 hpart with hpart | hpart
    · obtain ⟨rfl, hne⟩ := Piece.text_mem_ofText hpart
      exact ⟨hne, (firstAt_doubled.1 opens).2.1⟩
    · exact ih (by simpa using hpart)

/-! ### Reading -/

theorem segmentsOf_of_last (h : ¬ opening <:+: text) :
    segmentsOf text = .ok (textSegments text) := by
  rw [segmentsOf, cut?_eq_none_iff.2 h]

/-- A slot that is closed and has a name is read, and the reading goes on behind it. -/
theorem segmentsOf_of_slot {before after spelling rest : List Char}
    (opens : FirstAt opening text before after) (closes : FirstAt closing after spelling rest)
    (hname : trimChars spelling ≠ []) :
    segmentsOf text = (segmentsOf rest).map fun segments =>
      textSegments before ++ .slot (String.ofList (trimChars spelling)) :: segments := by
  rw [segmentsOf, cut?_eq_some_iff.2 opens]
  dsimp only
  rw [cut?_eq_some_iff.2 closes]
  dsimp only
  rw [if_neg (by simpa using hname)]
  cases segmentsOf rest <;> rfl

theorem segmentsOf_of_scans (h : Scans text pieces) (hnamed : Named pieces) :
    segmentsOf text = .ok (pieces.map Piece.segment) := by
  induction h with
  | done last => rw [segmentsOf_of_last last, Piece.map_segment_ofText]
  | slot opens closes _ ih =>
    obtain ⟨hname, hrest⟩ := named_slot_iff.1 hnamed
    rw [segmentsOf_of_slot opens closes hname, ih hrest, List.map_append, List.map_cons,
      Piece.map_segment_ofText]
    rfl

/-- A text is read as segments when it can be scanned and every slot has a name. -/
theorem segmentsOf_eq_ok_iff :
    segmentsOf text = .ok segments ↔
      ∃ pieces, Scans text pieces ∧ Named pieces ∧ segments = pieces.map Piece.segment := by
  constructor
  · intro hread
    -- The reader goes from slot to slot, and so does the scan.
    fun_induction segmentsOf text generalizing segments with
    | case1 text hopens =>
      obtain rfl := Except.ok.inj hread
      exact ⟨_, .done (cut?_eq_none_iff.1 hopens), named_ofText text,
        (Piece.map_segment_ofText text).symm⟩
    | case2 => cases hread
    | case3 => cases hread
    | case4 text before after hopens spelling rest hcloses name hname =>
      rename_i ih
      obtain ⟨found, hfound, hsegments⟩ := Outcome.bind_eq_ok_iff.1 hread
      obtain rfl := Except.ok.inj hsegments
      obtain ⟨pieces, hscans, hnamed, rfl⟩ := ih hfound
      refine ⟨_, .slot (cut?_eq_some_iff.1 hopens) (cut?_eq_some_iff.1 hcloses) hscans,
        named_slot_iff.2 ⟨by simpa using hname, hnamed⟩, ?_⟩
      rw [List.map_append, List.map_cons, Piece.map_segment_ofText]
      rfl
  · rintro ⟨pieces, hscans, hnamed, rfl⟩
    exact segmentsOf_of_scans hscans hnamed

theorem ofText_eq_ok_iff {name source : String} {template : Template} :
    ofText name source = .ok template ↔
      template.name = name ∧ segmentsOf source.toList = .ok template.segments := by
  obtain ⟨given, segments⟩ := template
  rw [ofText]
  split
  · next found hfound => simp [hfound, eq_comm]
  · next fault hfault => simp [hfault]

/-! ### Slots -/

/-- The new slots are the names that have not been seen, each where it stands first. -/
theorem newSlots_eq (seen : List String) (segments : List Segment) :
    newSlots seen segments =
      ((segments.filterMap slotName?).filter fun name => !decide (name ∈ seen)).eraseDups := by
  induction segments generalizing seen with
  | nil => rfl
  | cons segment rest ih =>
    cases segment with
    | text text => rw [newSlots, ih]; rfl
    | slot name =>
      rw [newSlots, List.filterMap_cons_some (f := slotName?) (b := name) rfl]
      -- A slot that has been seen is left out. A new one counts as seen from here on.
      split
      · next hseen => rw [ih, List.filter_cons_of_neg (by simpa using hseen)]
      · next hnew =>
        rw [ih, List.filter_cons_of_pos (by simpa using hnew), List.eraseDups_cons,
          List.filter_filter]
        congr 3
        funext other
        by_cases h : other = name <;> simp [h]

/-- The slots of a template are the names in it, each where it stands first. -/
theorem slots_eq (template : Template) :
    template.slots = (template.segments.filterMap slotName?).eraseDups := by
  rw [slots, newSlots_eq]
  simp

theorem nodup_slots (template : Template) : template.slots.Nodup := by
  rw [slots_eq]
  exact FirstAppearances.nodup_eraseDups _

/-- A slot of the template is among its slots. -/
theorem slot_mem_slots {slot : String} :
    slot ∈ template.slots ↔ .slot slot ∈ template.segments := by
  rw [slots_eq, List.mem_eraseDups, List.mem_filterMap]
  constructor
  · rintro ⟨segment, hsegment, hname⟩
    cases segment with
    | text text => cases hname
    | slot name =>
      obtain rfl := Option.some.inj hname
      exact hsegment
  · exact fun hmem => ⟨_, hmem, rfl⟩

/-! ### Writing -/

/-- The text of segments. -/
def written (segments : List Segment) : String :=
  String.join (segments.map Segment.written)

/-- Segments that can be read back from their text. -/
structure Printable (segments : List Segment) : Prop where
  plain : ∀ segment ∈ segments, segment.Plain
  apart : segments.IsChain Segment.Apart

instance (segments : List Segment) : Decidable (Printable segments) :=
  decidable_of_iff ((∀ segment ∈ segments, segment.Plain) ∧ segments.IsChain Segment.Apart)
    ⟨fun h => ⟨h.1, h.2⟩, fun h => ⟨h.plain, h.apart⟩⟩

theorem Printable.tail {segment : Segment} (h : Printable (segment :: segments)) :
    Printable segments where
  plain := fun other hmem => h.plain other (List.mem_cons_of_mem _ hmem)
  apart := h.apart.tail

/-- A slot that is spelled as its name is found behind a text. -/
theorem scans_slot {before : List Char} {name : String} {pieces : List Piece}
    (hbefore : ¬ opening <:+: before ∧ before.getLast? ≠ some '\x7b')
    (hname : ¬ closing <:+: name.toList ∧ name.toList.getLast? ≠ some '\x7d')
    (h : Scans text pieces) :
    Scans (before ++ ((Segment.slot name).piece.written ++ text))
      (Piece.ofText before ++ (Segment.slot name).piece :: pieces) := by
  have hopens : FirstAt opening (before ++ opening ++ (name.toList ++ closing ++ text)) before _ :=
    firstAt_doubled.2 ⟨rfl, hbefore⟩
  have hcloses : FirstAt closing (name.toList ++ closing ++ text) name.toList _ :=
    firstAt_doubled.2 ⟨rfl, hname⟩
  have hwritten : before ++ ((Segment.slot name).piece.written ++ text) =
      before ++ opening ++ (name.toList ++ closing ++ text) := by
    simp [Segment.piece, Piece.written]
  rw [hwritten]
  exact .slot hopens hcloses h

theorem opening_not_infix_nil : ¬ opening <:+: [] := by
  simp [opening]

/-- The text of printable segments has them as its pieces. -/
theorem scans_written : ∀ {segments : List Segment}, Printable segments →
    Scans (written segments).toList (segments.map Segment.piece)
  | [], _ => .done opening_not_infix_nil
  | .slot name :: rest, h => by
    obtain ⟨-, -, hslot⟩ := h.plain (.slot name) (by simp)
    have hscans := scans_slot ⟨opening_not_infix_nil, by simp⟩ hslot (scans_written h.tail)
    simpa [written, Segment.written, Piece.ofText] using hscans
  | [.text text], h => by
    -- A last text ends with the source, and any other one with the slot behind it.
    obtain ⟨hne, hnone⟩ := h.plain (.text text) (by simp)
    have hscans := Scans.done hnone
    rw [Segment.ofText_toList hne] at hscans
    simpa [written, Segment.written, Segment.piece, Piece.written] using hscans
  | .text text :: .slot name :: rest, h => by
    obtain ⟨hne, hnone⟩ := h.plain (.text text) (by simp)
    obtain ⟨-, -, hslot⟩ := h.plain (.slot name) (by simp)
    have hscans := scans_slot ⟨hnone, (List.isChain_cons_cons.1 h.apart).1⟩ hslot
      (scans_written h.tail.tail)
    rw [Segment.ofText_toList hne] at hscans
    simpa [written, Segment.written, Segment.piece, Piece.written] using hscans
  | .text _ :: .text _ :: _, h => (List.isChain_cons_cons.1 h.apart).1.elim

/-- Printable segments are read back from their text. -/
theorem segmentsOf_written (h : Printable segments) :
    segmentsOf (written segments).toList = .ok segments := by
  -- The slots are written without blanks, so reading them back trims nothing.
  have hnamed : Named (segments.map Segment.piece) := by
    intro spelling hmem
    obtain ⟨segment, hsegment, hpiece⟩ := List.mem_map.1 hmem
    cases segment with
    | text text => cases hpiece
    | slot name =>
      obtain rfl := Piece.slot.inj hpiece
      obtain ⟨hne, htrimmed, -⟩ := h.plain _ hsegment
      simpa [htrimmed] using hne
  have hback : (segments.map Segment.piece).map Piece.segment = segments := by
    rw [List.map_map]
    refine (List.map_congr_left fun segment hsegment => ?_).trans (List.map_id _)
    cases segment with
    | text text => simp [Segment.piece, Piece.segment]
    | slot name => simp [Segment.piece, Piece.segment, (h.plain _ hsegment).2.1]
  rw [segmentsOf_of_scans (scans_written h) hnamed, hback]

/-! ### Reading again -/

/-- What has been scanned stays apart when it is written again. -/
theorem Scans.isChain (h : Scans text pieces) :
    (pieces.map Piece.segment).IsChain Segment.Apart := by
  induction h with
  | @done text last =>
    rw [Piece.map_segment_ofText]
    cases text with
    | nil => exact .nil
    | cons c text => exact .singleton _
  | @slot text before after spelling rest pieces opens closes scans ih =>
    -- Behind a slot anything may stand.
    have hslot : ((Piece.slot spelling).segment :: pieces.map Piece.segment).IsChain
        Segment.Apart := ih.cons fun _ _ => trivial
    rw [List.map_append, List.map_cons, Piece.map_segment_ofText]
    cases before with
    | nil => exact hslot
    | cons c before =>
      refine .cons_cons ?_ hslot
      simpa [Segment.Apart, Piece.segment] using (firstAt_doubled.1 opens).2.2

/-- The segments of a template can be written and read again when no name has a closing brace. -/
theorem printable_of_ofText {name source : String} {template : Template}
    (h : ofText name source = .ok template)
    (hbrace : ∀ slot ∈ template.slots, '\x7d' ∉ slot.toList) : Printable template.segments := by
  obtain ⟨pieces, hscans, hnamed, hpieces⟩ := segmentsOf_eq_ok_iff.1 (ofText_eq_ok_iff.1 h).2
  refine ⟨fun segment hsegment => ?_, hpieces ▸ hscans.isChain⟩
  have hslot : ∀ slot, segment = .slot slot → '\x7d' ∉ slot.toList := by
    rintro slot rfl
    exact hbrace slot (slot_mem_slots.2 hsegment)
  rw [hpieces] at hsegment
  obtain ⟨piece, hpiece, rfl⟩ := List.mem_map.1 hsegment
  cases piece with
  | text part =>
    obtain ⟨hne, hnone⟩ := hscans.text_of_mem hpiece
    simpa [Piece.segment, Segment.Plain] using ⟨hne, hnone⟩
  | slot spelling =>
    have hnone := hslot _ rfl
    rw [String.toList_ofList] at hnone
    -- Without a brace in its name, a slot cannot end before its own end.
    have hclosing : ¬ closing <:+: trimChars spelling :=
      fun hin => hnone (hin.mem (by simp [closing]))
    have hlast : (trimChars spelling).getLast? ≠ some '\x7d' :=
      fun hsome => hnone (List.mem_of_getLast? hsome)
    simpa [Piece.segment, Segment.Plain, Text.trimChars_trimChars] using
      ⟨hnamed spelling hpiece, hclosing, hlast⟩

/-- A template is read from the texts that can be scanned and whose slots all have names. Its
segments are the pieces of the text, with the names trimmed, and the pieces put together are the
text. Its slots are the names in it, each once. Printable segments are read back from their
text. -/
theorem ofText_scanned (name source : String) :
    ((∃ template, ofText name source = .ok template) ↔
      ∃ pieces, Scans source.toList pieces ∧ Named pieces) ∧
    (∀ template, ofText name source = .ok template →
      template.name = name ∧
      (∃ pieces, Scans source.toList pieces ∧ template.segments = pieces.map Piece.segment ∧
        pieces.flatMap Piece.written = source.toList) ∧
      (∀ text, .text text ∈ template.segments → text ≠ "" ∧ ¬ opening <:+: text.toList) ∧
      template.slots = (template.segments.filterMap slotName?).eraseDups ∧
      template.slots.Nodup) ∧
    ∀ segments, Printable segments → ofText name (written segments) = .ok ⟨name, segments⟩ := by
  refine ⟨⟨?_, ?_⟩, ?_, ?_⟩
  · rintro ⟨template, hread⟩
    obtain ⟨-, hsegments⟩ := ofText_eq_ok_iff.1 hread
    obtain ⟨pieces, hscans, hnamed, -⟩ := segmentsOf_eq_ok_iff.1 hsegments
    exact ⟨pieces, hscans, hnamed⟩
  · rintro ⟨pieces, hscans, hnamed⟩
    exact ⟨⟨name, _⟩, ofText_eq_ok_iff.2 ⟨rfl, segmentsOf_of_scans hscans hnamed⟩⟩
  · intro template hread
    obtain ⟨hname, hsegments⟩ := ofText_eq_ok_iff.1 hread
    obtain ⟨pieces, hscans, -, hpieces⟩ := segmentsOf_eq_ok_iff.1 hsegments
    refine ⟨hname, ⟨pieces, hscans, hpieces, hscans.flatMap_written⟩, ?_, slots_eq template,
      nodup_slots template⟩
    intro text htext
    rw [hpieces] at htext
    obtain ⟨piece, hpiece, heq⟩ := List.mem_map.1 htext
    cases piece with
    | text part =>
      obtain rfl := Segment.text.inj heq
      simpa using hscans.text_of_mem hpiece
    | slot spelling => cases heq
  · exact fun segments hprintable => ofText_eq_ok_iff.2 ⟨rfl, segmentsOf_written hprintable⟩

/-- Braces that open or close no slot: behind a slot, in a name, and at the end of the text. -/
def bracedSegments : List Segment :=
  [.text "a", .slot "x", .text "\x7d ", .slot "\x7by\x7d z", .slot "x", .text " \x7b"]

/-- Segments with braces of their own are read back, and their slots are listed once. -/
theorem ofText_scanned_braced :
    Printable bracedSegments ∧
      ∃ template, ofText "braced" (written bracedSegments) = .ok template ∧
        template.segments = bracedSegments ∧ template.slots = ["x", "\x7by\x7d z"] ∧
        template.slots.Nodup := by
  have hprintable : Printable bracedSegments := by decide
  obtain ⟨-, hread, hback⟩ := ofText_scanned "braced" (written bracedSegments)
  have htemplate := hback bracedSegments hprintable
  obtain ⟨-, -, -, -, hnodup⟩ := hread _ htemplate
  exact ⟨hprintable, _, htemplate, rfl, by decide, hnodup⟩

end Template

end SchemaMigration
