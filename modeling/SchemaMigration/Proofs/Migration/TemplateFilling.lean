import SchemaMigration.Proofs.KeyedEntries
import SchemaMigration.Proofs.Migration.TemplateReading

/-!
# `SchemaMigration.Proofs.Migration.TemplateFilling`: when a template is filled, and with what

Filling a template looks for three faults: a value for a slot that is not there, a second value
for a slot, and a slot without a value. There is none of them when the names of the values are the
slots of the template in some order (`fill_eq_ok_iff`).

A filled template is its segments in their order. A text stays, and a slot becomes the value that
is supplied for it (`Segment.FilledWith`). The value is taken as it is, marks and all, and where
it stands among the values does not matter (`render_perm`).

When every slot becomes itself in its marks, the text is that of the template once more, and is
read as the same segments.
-/

set_option autoImplicit false

namespace SchemaMigration

/-- What a segment is filled with: a text stays, and a slot becomes a value that is supplied for
it. -/
def Segment.FilledWith (values : List (String × String)) : Segment → String → Prop
  | .text given, part => part = given
  | .slot name, part => (name, part) ∈ values

namespace Template

open Outcome (bind_eq_ok_iff ok_bind mapError_eq_ok_iff)

variable {template : Template} {values other : List (String × String)} {text : String}

/-- The names of values pass the check when they are slots and come once, here and in what has been
seen. -/
theorem checkValues_eq_ok_iff {seen : List String} :
    template.checkValues seen values = .ok () ↔
      (∀ name ∈ values.map Prod.fst, name ∈ template.slots ∧ name ∉ seen) ∧
        (values.map Prod.fst).Nodup := by
  induction values generalizing seen with
  | nil => simp [checkValues]
  | cons value rest ih =>
    obtain ⟨name, part⟩ := value
    rw [checkValues, List.map_cons, List.forall_mem_cons, List.nodup_cons]
    split
    · next hunknown => simp_all [hasSlot]
    · next hslot =>
      have hslot : name ∈ template.slots := by simpa [hasSlot] using hslot
      split
      · next hseen => simp [hseen]
      · next hnew =>
        rw [ih]
        -- To be new to what has been seen and to `name` is to be new to the one and not `name`.
        simp only [List.mem_cons, not_or, hslot, hnew, not_false_eq_true, and_self, true_and]
        constructor
        · rintro ⟨hrest, hnodup⟩
          exact ⟨fun other hother => ⟨(hrest other hother).1, (hrest other hother).2.2⟩,
            fun hmem => (hrest name hmem).2.1 rfl, hnodup⟩
        · rintro ⟨hrest, hname, hnodup⟩
          exact ⟨fun other hother => ⟨(hrest other hother).1,
            fun heq => hname (heq ▸ hother), (hrest other hother).2⟩, hnodup⟩

/-- No slot is without a value when every slot is among the names of the values. -/
theorem find_missing_eq_none_iff :
    (template.slots.find? fun slot => (values.lookup slot).isNone) = none ↔
      ∀ slot ∈ template.slots, slot ∈ values.map Prod.fst := by
  rw [List.find?_eq_none]
  refine forall₂_congr fun slot _ => ?_
  rw [Option.isNone_iff_eq_none, List.lookup_eq_none_iff, List.mem_map]
  simp only [bne_iff_ne, ne_eq, not_forall, not_not, exists_prop]
  exact exists_congr fun value => and_congr_right fun _ => eq_comm

/-- A template is filled when the names of the values are its slots in some order. -/
theorem fill_eq_ok_iff :
    template.fill values = .ok text ↔
      (values.map Prod.fst).Perm template.slots ∧
        text = String.join (template.segments.map (fillSegment values)) := by
  rw [fill, bind_eq_ok_iff]
  constructor
  · rintro ⟨_, hcheck, hfill⟩
    obtain ⟨hslots, hnodup⟩ := checkValues_eq_ok_iff.1 hcheck
    split at hfill
    · cases hfill
    · next hmissing =>
      -- Names without repetition are slots, and no slot is missing, so they are the slots.
      have hfilled := find_missing_eq_none_iff.1 hmissing
      refine ⟨(List.perm_ext_iff_of_nodup hnodup template.nodup_slots).2 fun name => ?_,
        (Except.ok.inj hfill).symm⟩
      exact ⟨fun hname => (hslots name hname).1, hfilled name⟩
  · rintro ⟨hperm, rfl⟩
    have hcheck : template.checkValues [] values = .ok () :=
      checkValues_eq_ok_iff.2
        ⟨fun name hname => ⟨hperm.mem_iff.1 hname, List.not_mem_nil⟩,
          hperm.nodup_iff.2 template.nodup_slots⟩
    have hmissing := find_missing_eq_none_iff.2 fun slot hslot => hperm.mem_iff.2 hslot
    refine ⟨(), hcheck, ?_⟩
    rw [hmissing]
    rfl

theorem render_eq_ok_iff :
    template.render values = .ok text ↔
      (values.map Prod.fst).Perm template.slots ∧
        text = String.join (template.segments.map (fillSegment values)) := by
  rw [render, mapError_eq_ok_iff, fill_eq_ok_iff]

/-- A template whose slots are supplied, each once, is filled. -/
theorem render_eq_ok (h : (values.map Prod.fst).Perm template.slots) :
    template.render values = .ok (String.join (template.segments.map (fillSegment values))) :=
  render_eq_ok_iff.2 ⟨h, rfl⟩

/-- Every segment is filled with its text or with the value that is supplied for it. -/
theorem filledWith_fillSegment (h : (values.map Prod.fst).Perm template.slots)
    {segment : Segment} (hsegment : segment ∈ template.segments) :
    segment.FilledWith values (fillSegment values segment) := by
  cases segment with
  | text text => rfl
  | slot name =>
    have hnodup : (values.map Prod.fst).Nodup := h.nodup_iff.2 template.nodup_slots
    obtain ⟨⟨_, part⟩, hvalue, rfl⟩ :=
      List.mem_map.1 (h.mem_iff.2 (slot_mem_slots.2 hsegment))
    have hlookup := (Keyed.lookup_eq_some_iff hnodup).2 hvalue
    rw [fillSegment, hlookup]
    exact hvalue

/-- The values may be supplied in any order. -/
theorem render_perm (h : template.render values = .ok text) (hperm : other.Perm values) :
    template.render other = .ok text := by
  obtain ⟨hslots, rfl⟩ := render_eq_ok_iff.1 h
  have hnodup : (values.map Prod.fst).Nodup := hslots.nodup_iff.2 template.nodup_slots
  refine render_eq_ok_iff.2 ⟨(hperm.map Prod.fst).trans hslots, ?_⟩
  congr 2
  funext segment
  cases segment with
  | text text => rfl
  | slot name => rw [fillSegment, fillSegment, Keyed.lookup_perm hperm hnodup]

/-- Each slot with itself as its value. -/
def ownValues (template : Template) : List (String × String) :=
  template.slots.map fun slot => (slot, (Segment.slot slot).written)

/-- A template that is filled with its own slots has its text once more. -/
theorem render_ownValues (template : Template) :
    template.render template.ownValues = .ok (written template.segments) := by
  have hnames : template.ownValues.map Prod.fst = template.slots := by
    simp [ownValues, Function.comp_def]
  refine render_eq_ok_iff.2 ⟨.of_eq hnames, ?_⟩
  rw [written]
  congr 1
  refine List.map_congr_left fun segment hsegment => ?_
  have hfilled := filledWith_fillSegment (.of_eq hnames) hsegment
  cases segment with
  | text text => simp [fillSegment, Segment.written, Segment.piece, Piece.written]
  | slot name =>
    obtain ⟨slot, -, heq⟩ := List.mem_map.1 hfilled
    obtain ⟨rfl, hvalue⟩ := Prod.mk.inj heq
    exact hvalue

/-- A template is filled when each of its slots is supplied once and nothing else is. What comes out
is its segments, each with its text or with the value for it as it was supplied, whatever order the
values have. Filled with its own slots, a template is read as the same segments, if no name has a
closing brace. -/
theorem render_filled {name source : String} (h : ofText name source = .ok template)
    (values : List (String × String)) :
    ((∃ text, template.render values = .ok text) ↔
      (values.map Prod.fst).Perm template.slots) ∧
    (∀ text, template.render values = .ok text →
      (∃ parts, List.Forall₂ (Segment.FilledWith values) template.segments parts ∧
        text = String.join parts) ∧
      ∀ other, other.Perm values → template.render other = .ok text) ∧
    ((∀ slot ∈ template.slots, '\x7d' ∉ slot.toList) →
      ∃ text, template.render template.ownValues = .ok text ∧
        ∀ other, ofText other text = .ok ⟨other, template.segments⟩) := by
  refine ⟨⟨?_, fun hperm => ⟨_, render_eq_ok hperm⟩⟩, ?_, ?_⟩
  · rintro ⟨text, htext⟩
    exact (render_eq_ok_iff.1 htext).1
  · intro text htext
    obtain ⟨hperm, rfl⟩ := render_eq_ok_iff.1 htext
    refine ⟨⟨_, ?_, rfl⟩, fun other hother => render_perm htext hother⟩
    rw [List.forall₂_map_right_iff, List.forall₂_same]
    exact fun segment hsegment => filledWith_fillSegment hperm hsegment
  · intro hbrace
    have hprintable := printable_of_ofText h hbrace
    exact ⟨_, template.render_ownValues,
      fun other => ofText_eq_ok_iff.2 ⟨rfl, segmentsOf_written hprintable⟩⟩

/-- The text of a template with a slot that comes twice, once with blanks around its name. -/
def renamingText : String :=
  "rename \x7b\x7b old \x7d\x7d to \x7b\x7bnew\x7d\x7d, drop \x7b\x7bold\x7d\x7d"

/-- A value that looks like a slot is put in as it is, and the values may come in another order
than the slots. -/
theorem render_filled_renamingText :
    ∃ template, ofText "rename" renamingText = .ok template ∧
      ["new", "old"].Perm template.slots ∧
      template.render [("old", "users"), ("new", "\x7b\x7bold\x7d\x7d")] =
        .ok "rename users to \x7b\x7bold\x7d\x7d, drop users" ∧
      ∃ text, template.render template.ownValues = .ok text ∧
        ofText "again" text = .ok ⟨"again", template.segments⟩ := by
  let template : Template := ⟨"rename", [.text "rename ", .slot "old", .text " to ", .slot "new",
    .text ", drop ", .slot "old"]⟩
  have hread : ofText "rename" renamingText = .ok template :=
    Outcome.eq_ok_of_toOption (by decide +kernel)
  have hrender : template.render [("new", "\x7b\x7bold\x7d\x7d"), ("old", "users")] =
      .ok "rename users to \x7b\x7bold\x7d\x7d, drop users" :=
    Outcome.eq_ok_of_toOption (by decide)
  obtain ⟨hslots, hparts, hown⟩ := render_filled hread
    [("new", "\x7b\x7bold\x7d\x7d"), ("old", "users")]
  -- The value of `new` looks like a slot, and is not filled again.
  obtain ⟨-, horder⟩ := hparts _ hrender
  obtain ⟨text, htext, hagain⟩ := hown (by decide)
  exact ⟨template, hread, hslots.1 ⟨_, hrender⟩, horder _ (.swap ..), text, htext, hagain _⟩

end Template

end SchemaMigration
