import SchemaMigration.Proofs.Json.RecordOrder

/-!
# `SchemaMigration.Proofs.Json.FieldPlaces`: one value in its place

A decoder walks a tree and reads each value in it with another decoder. What comes of the whole tree
depends on one of the values only through what is read of it (`Carries`). So the whole tree is not
read when the value is not (`Carries.toOption_eq_none`), and values that are read as the same can
take each other's place (`Carries.toOption_congr`).

This holds for an item of an array (`carries_item`), for the value of an object with free keys
(`carries_entry`) and for a field of a record, in both of its forms (`carries_field`). A field can
be read behind all others. What comes of the record is then what the field's value makes of the
draft of the others (`exists_toOption_record_put`).
-/

set_option autoImplicit false

namespace SchemaMigration.Json

open SchemaMigration.Outcome

namespace Decoder

variable {α β γ σ : Type} {decode : Decoder α} {room : Nat}

/-! ### Values in larger trees -/

/-- What the outer decoder makes of the tree around a value is made of what the inner one reads of
the value. -/
def Carries (inner : Decoder α) (around : Tree → Tree) (outer : Decoder β) : Prop :=
  ∀ room, ∃ (room' : Nat) (finish : α → Option β), ∀ value,
    (outer room (around value)).toOption = (inner room' value).toOption.bind finish

namespace Carries

variable {inner : Decoder α} {middle : Decoder β} {outer : Decoder γ} {around around' : Tree → Tree}

/-- Of a value that is not read, nothing is made. -/
theorem toOption_eq_none (h : Carries inner around middle) {value : Tree}
    (hnone : ∀ room, (inner room value).toOption = none) (room : Nat) :
    (middle room (around value)).toOption = none := by
  obtain ⟨room', finish, hfinish⟩ := h room
  rw [hfinish, hnone, Option.bind_none]

/-- Of values that are read as the same, the same is made. -/
theorem toOption_congr (h : Carries inner around middle) {value value' : Tree}
    (hsame : ∀ room, (inner room value').toOption = (inner room value).toOption) (room : Nat) :
    (middle room (around value')).toOption = (middle room (around value)).toOption := by
  obtain ⟨room', finish, hfinish⟩ := h room
  rw [hfinish, hfinish, hsame]

theorem comp (h : Carries inner around middle) (h' : Carries middle around' outer) :
    Carries inner (fun value => around' (around value)) outer := by
  intro room
  obtain ⟨room', finish', hfinish'⟩ := h' room
  obtain ⟨room'', finish, hfinish⟩ := h room'
  refine ⟨room'', fun a => (finish a).bind finish', fun value => ?_⟩
  rw [hfinish', hfinish, Option.bind_assoc]

/-- Arrays and objects are not read without room, and with room their values have one level less. -/
theorem of_succ (hzero : ∀ value, (middle 0 (around value)).toOption = none)
    (hsucc : ∀ room, ∃ finish : α → Option β, ∀ value b,
      middle (room + 1) (around value) = .ok b ↔
        ∃ a, inner room value = .ok a ∧ finish a = some b) :
    Carries inner around middle := by
  intro room
  cases room with
  | zero => exact ⟨0, fun _ => none, fun value => by rw [hzero, Option.bind_fun_none]⟩
  | succ room =>
    obtain ⟨finish, hfinish⟩ := hsucc room
    refine ⟨room, finish, fun value => Option.ext fun b => ?_⟩
    simp only [toOption_eq_some_iff, Option.bind_eq_some_iff, hfinish]

end Carries

/-! ### Items and members with free keys -/

theorem items_append (l l' : List Tree) :
    items decode room (.ofList (l ++ l')) = do
      let front ← items decode room (.ofList l)
      return front ++ (← items decode room (.ofList l')) := by
  induction l with
  | nil => exact (bind_pure _).symm
  | cons item l ih =>
    rw [List.cons_append, Items.ofList, Items.ofList, items, items, ih]
    simp only [bind_assoc, pure_bind, List.cons_append]

/-- What is read of an array is made of what is read of an item. -/
theorem carries_item (decode : Decoder α) (before after : List Tree) :
    Carries decode (fun value => .array (.ofList (before ++ value :: after))) (list decode) := by
  refine .of_succ (fun _ => rfl) fun room => ⟨fun a =>
    (items decode room (.ofList before)).toOption.bind fun front =>
      (items decode room (.ofList after)).toOption.map fun back => front ++ a :: back,
    fun value found => ?_⟩
  rw [list, items_append, Items.ofList, items]
  simp only [toOption_eq_some_iff, bind_eq_ok_iff, Option.bind_eq_some_iff, Option.map_eq_some_iff]
  constructor
  · rintro ⟨front, hfront, _, ⟨a, hvalue, back, hback, hcons⟩, hfound⟩
    obtain rfl := Except.ok.inj hcons
    exact ⟨a, hvalue, front, hfront, back, hback, Except.ok.inj hfound⟩
  · rintro ⟨a, hvalue, front, hfront, back, hback, rfl⟩
    exact ⟨front, hfront, _, ⟨a, hvalue, back, hback, rfl⟩, rfl⟩

theorem entries_append (l l' : List (Option String × Tree)) :
    entries decode room (.ofList (l ++ l')) = do
      let front ← entries decode room (.ofList l)
      return front ++ (← entries decode room (.ofList l')) := by
  induction l with
  | nil => exact (bind_pure _).symm
  | cons member l ih =>
    obtain ⟨key, value⟩ := member
    cases key with
    | none => rfl
    | some key =>
      rw [List.cons_append, Members.ofList, Members.ofList, entries, entries, ih]
      simp only [bind_assoc, pure_bind, List.cons_append]

/-- What is read of an object with free keys is made of what is read of one of its values. -/
theorem carries_entry (decode : Decoder α) (key : String)
    (before after : List (Option String × Tree)) :
    Carries decode (fun value => .object (.ofList (before ++ (some key, value) :: after)))
      (map decode) := by
  refine .of_succ (fun _ => rfl) fun room => ⟨fun a =>
    (entries decode room (.ofList before)).toOption.bind fun front =>
      (entries decode room (.ofList after)).toOption.map fun back =>
        .ofList (front ++ (key, a) :: back),
    fun value found => ?_⟩
  rw [map, entries_append]
  simp only [toOption_eq_some_iff, bind_eq_ok_iff, entries_cons_eq_ok_iff,
    Option.bind_eq_some_iff, Option.map_eq_some_iff]
  constructor
  · rintro ⟨_, ⟨front, hfront, _, ⟨_, a, back, hkey, hvalue, hback, rfl⟩, hcons⟩, hfound⟩
    obtain rfl := Option.some.inj hkey
    obtain rfl := Except.ok.inj hcons
    exact ⟨a, hvalue, front, hfront, back, hback, Except.ok.inj hfound⟩
  · rintro ⟨a, hvalue, front, hfront, back, hback, rfl⟩
    exact ⟨_, ⟨front, hfront, _, ⟨key, a, back, rfl, hvalue, hback, rfl⟩, rfl⟩, rfl⟩

/-! ### Fields of records -/

section Fields

variable {fields front back : List (Field σ)} {field : Field σ} {name expected title : String}
  {opt : Bool} {get : σ → Option α} {set : σ → α → σ} {draft filled empty : σ}
  {finish : σ → Except ShapeError β}

/-- A place where a record gives the field of a name: as a member under that name, or as the item
at the position of the field. -/
inductive FieldPlace (fields : List (Field σ)) (name : String) where
  | member (before after : List (Option String × Tree))
  | item (before after : List Tree) (h : (fields.map Field.name)[before.length]? = some name)

/-- The record that gives a value in this place. -/
def FieldPlace.put : FieldPlace fields name → Tree → Tree
  | .member before after, value => .object (.ofList (before ++ (some name, value) :: after))
  | .item before after _, value => .array (.ofList (before ++ value :: after))

/-- When no two fields have one name, a field is found by its own. -/
theorem find?_name_eq (hnames : (fields.map Field.name).Nodup) (hfield : field ∈ fields) :
    fields.find? (fun other => other.name == field.name) = some field := by
  cases hfind : fields.find? fun other => other.name == field.name with
  | none => exact absurd (beq_self_eq_true _) (List.find?_eq_none.1 hfind field hfield)
  | some other =>
    have hname := List.find?_some hfind
    exact congrArg some (List.inj_on_of_nodup_map hnames (List.mem_of_find?_eq_some hfind) hfield
      (beq_iff_eq.1 hname))

/-- A member of a field is read behind the others. -/
theorem exists_recordMembers_append_cons (room : Nat) (empty : σ) (h : Independent fields)
    (hnames : (fields.map Field.name).Nodup) (hfield : field ∈ fields)
    (before after : List (Option String × Tree)) :
    ∃ rest : Option σ, ∀ value filled,
      recordMembers fields room (.ofList (before ++ (some field.name, value) :: after)) empty =
          .ok filled ↔
        ∃ draft ∈ rest, field.read room value draft = .ok filled := by
  -- The others are read first. No draft is left of them when one of them has filled the field.
  refine ⟨(recordMembers fields room (.ofList (before ++ after)) empty).toOption.filter
    fun draft => !field.filled draft, fun value filled => ?_⟩
  have hperm : (before ++ (some field.name, value) :: after).Perm
      (before ++ after ++ [(some field.name, value)]) := by
    rw [List.append_assoc]
    exact .append_left before (List.perm_append_singleton _ _).symm
  have hlast : recordMembers fields room
      (.ofList (before ++ (some field.name, value) :: after)) empty = .ok filled ↔
        recordMembers fields room
          (.ofList (before ++ after ++ [(some field.name, value)])) empty = .ok filled :=
    ⟨recordMembers_perm h hperm, recordMembers_perm h hperm.symm⟩
  rw [hlast, recordMembers_ofList, List.foldlM_append, bind_eq_ok_iff, ← recordMembers_ofList]
  refine exists_congr fun draft => ?_
  simp only [Option.mem_def, Option.filter_eq_some_iff, toOption_eq_some_iff, and_assoc]
  refine and_congr_right fun _ => ?_
  simp only [List.foldlM_cons, List.foldlM_nil, bind_pure, readMember, find?_name_eq hnames hfield]
  cases field.filled draft with
  | true => simp
  | false => simp

theorem recordItems_append {before : List Tree} (h : before.length = front.length) (l : List Tree)
    (index : Nat) (draft : σ) :
    recordItems expected room (front ++ back) index (.ofList (before ++ l)) draft =
      recordItems expected room front index (.ofList before) draft >>=
        recordItems expected room back (index + front.length) (.ofList l) := by
  induction front generalizing before index draft with
  | nil =>
    obtain rfl := List.eq_nil_of_length_eq_zero h
    rfl
  | cons field front ih =>
    cases before with
    | nil => cases h
    | cons item before =>
      simp only [List.cons_append, Items.ofList, recordItems, bind_assoc, List.length_cons]
      simp only [ih (Nat.succ.inj h), Nat.add_assoc, Nat.add_comm 1]

/-- A field can be read behind others that are apart from it. -/
theorem recordItems_swap (h : ∀ other ∈ back, field.Apart other) {value : Tree} {l : List Tree}
    {index : Nat} :
    (∃ next, field.read room value draft = .ok next ∧
        recordItems expected room back index (.ofList l) next = .ok filled) ↔
      ∃ next, recordItems expected room back index (.ofList l) draft = .ok next ∧
        field.read room value next = .ok filled := by
  induction back generalizing l index draft with
  | nil =>
    cases l with
    | nil => simp [Items.ofList, recordItems]
    | cons item l => simp [Items.ofList, recordItems]
  | cons other back ih =>
    rw [List.forall_mem_cons] at h
    cases l with
    | nil =>
      rw [Items.ofList]
      simp only [recordItems]
      -- Without further items the other fields are left out, and each of them must be optional.
      by_cases hoptional : other.optional
      · simp only [if_pos hoptional]
        exact ih h.2 (l := [])
      · simp [if_neg hoptional]
    | cons item l =>
      simp only [Items.ofList, recordItems, bind_eq_ok_iff]
      -- The item is moved past that of `other`, and then past those behind.
      constructor
      · rintro ⟨next, hvalue, between, hitem, hrest⟩
        obtain ⟨before, hitem', hvalue'⟩ := h.1.spares.swap hvalue hitem
        obtain ⟨last, hrest', hlast⟩ := (ih h.2).1 ⟨between, hvalue', hrest⟩
        exact ⟨last, ⟨before, hitem', hrest'⟩, hlast⟩
      · rintro ⟨last, ⟨before, hitem, hrest⟩, hlast⟩
        obtain ⟨between, hvalue, hrest'⟩ := (ih h.2).2 ⟨last, hrest, hlast⟩
        obtain ⟨next, hvalue', hitem'⟩ := h.1.spared.swap hitem hvalue
        exact ⟨next, hvalue', between, hitem', hrest'⟩

/-- The item of a field is read behind the others. -/
theorem exists_recordItems_append_cons (expected : String) (room : Nat) (empty : σ)
    (h : Independent fields) {before : List Tree} (hitem : fields[before.length]? = some field)
    (after : List Tree) :
    ∃ rest : Option σ, ∀ value filled,
      recordItems expected room fields 0 (.ofList (before ++ value :: after)) empty = .ok filled ↔
        ∃ draft ∈ rest, field.read room value draft = .ok filled := by
  -- The items before this one belong to the fields before this one.
  obtain ⟨front, back, rfl, hlength⟩ : ∃ front back,
      fields = front ++ field :: back ∧ before.length = front.length := by
    obtain ⟨hlt, rfl⟩ := List.getElem?_eq_some_iff.1 hitem
    exact ⟨fields.take before.length, fields.drop (before.length + 1),
      by rw [List.getElem_cons_drop, List.take_append_drop], (List.length_take_of_le hlt.le).symm⟩
  have happart : ∀ other ∈ back, field.Apart other :=
    (List.pairwise_cons.1 (List.pairwise_append.1 h.apart).2.1).1
  refine ⟨(recordItems expected room front 0 (.ofList before) empty >>=
    recordItems expected room back (front.length + 1) (.ofList after)).toOption,
    fun value filled => ?_⟩
  rw [recordItems_append hlength, Nat.zero_add]
  simp only [Items.ofList, recordItems, bind_eq_ok_iff, recordItems_swap happart, Option.mem_def,
    toOption_eq_some_iff]
  constructor
  · rintro ⟨first, hfirst, draft, hdraft, hvalue⟩
    exact ⟨draft, ⟨first, hfirst, hdraft⟩, hvalue⟩
  · rintro ⟨draft, ⟨first, hfirst, hdraft⟩, hvalue⟩
    exact ⟨first, hfirst, draft, hdraft, hvalue⟩

/-- What comes of a record is what comes of the draft of the other fields when the value of this one
is read into it. -/
theorem exists_record_put (title : String) (empty : σ) (finish : σ → Except ShapeError β)
    (h : Independent fields) (hnames : (fields.map Field.name).Nodup) (hfield : field ∈ fields)
    (place : FieldPlace fields field.name) (room : Nat) :
    ∃ rest : Option σ, ∀ value b,
      record title fields empty finish (room + 1) (place.put value) = .ok b ↔
        ∃ filled, (∃ draft ∈ rest, field.read room value draft = .ok filled) ∧
          finish filled = .ok b := by
  cases place with
  | member before after =>
    obtain ⟨rest, hrest⟩ := exists_recordMembers_append_cons room empty h hnames hfield before after
    refine ⟨rest, fun value b => ?_⟩
    simp only [FieldPlace.put, record, bind_eq_ok_iff, mapError_eq_ok_iff, hrest]
  | item before after hitem =>
    rw [List.getElem?_map, Option.map_eq_some_iff] at hitem
    obtain ⟨other, hother, hname⟩ := hitem
    -- The field at this position has the same name, so it is the same field.
    obtain rfl : other = field :=
      List.inj_on_of_nodup_map hnames (List.mem_of_getElem? hother) hfield hname
    obtain ⟨rest, hrest⟩ := exists_recordItems_append_cons
      s!"struct {title} with {fields.length} elements" room empty h hother after
    refine ⟨rest, fun value b => ?_⟩
    simp only [FieldPlace.put, record, bind_eq_ok_iff, mapError_eq_ok_iff, hrest]

/-- What comes of a record is what comes of the draft of the other fields when the value of this one
is put into it. -/
theorem exists_toOption_record_put (title : String) (empty : σ) (finish : σ → Except ShapeError β)
    (h : Independent fields) (hnames : (fields.map Field.name).Nodup)
    (hfield : .of name opt decode get set ∈ fields) (place : FieldPlace fields name) (room : Nat) :
    ∃ rest : Option σ, ∀ value, (record title fields empty finish room (place.put value)).toOption =
      (decode (room - 1) value).toOption.bind fun a =>
        rest.bind fun draft => (finish (set draft a)).toOption := by
  cases room with
  | zero => cases place <;> exact ⟨none, fun value => (Option.bind_fun_none _).symm⟩
  | succ room =>
    obtain ⟨rest, hrest⟩ := exists_record_put title empty finish h hnames hfield place room
    refine ⟨rest, fun value => Option.ext fun b => ?_⟩
    refine (toOption_eq_some_iff.trans (hrest value b)).trans ?_
    simp only [Option.bind_eq_some_iff, toOption_eq_some_iff, Option.mem_def, Field.of,
      bind_eq_ok_iff]
    constructor
    · rintro ⟨_, ⟨draft, hdraft, a, hvalue, hfilled⟩, hfinish⟩
      obtain rfl := Except.ok.inj hfilled
      exact ⟨a, hvalue, draft, hdraft, hfinish⟩
    · rintro ⟨a, hvalue, draft, hdraft, hfinish⟩
      exact ⟨_, ⟨draft, hdraft, a, hvalue, rfl⟩, hfinish⟩

/-- What is read of a record is made of what is read of the value of a field. -/
theorem carries_field (h : Independent fields) (hnames : (fields.map Field.name).Nodup)
    (hfield : .of name opt decode get set ∈ fields) (place : FieldPlace fields name) :
    Carries decode place.put (record title fields empty finish) := by
  intro room
  obtain ⟨rest, hrest⟩ := exists_toOption_record_put title empty finish h hnames hfield place room
  exact ⟨_, _, hrest⟩

end Fields

end Decoder

end SchemaMigration.Json
