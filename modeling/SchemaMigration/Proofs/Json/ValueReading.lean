import SchemaMigration.Json.Decode
import SchemaMigration.Proofs.Json.BuiltTree
import SchemaMigration.Proofs.KeyedEntries
import SchemaMigration.Proofs.Outcome

/-!
# `SchemaMigration.Proofs.Json.ValueReading`: decoders on written values

`Decoder.Reads` says that a decoder reads a value as something, given room to nest. There
is one lemma for each way to put decoders together: `reads_list`, `reads_map` and
`reads_record` for arrays, for objects with free keys and for records.

The members of a record are described against its fields (`Fills`): each field in turn is
given by the next member, or left out. Members in this order fill the draft as the fields
say, since no two fields have the same name (`recordMembers_of_fills`).
-/

set_option autoImplicit false

namespace SchemaMigration.Json.Decoder

open SchemaMigration.Outcome

variable {α β σ : Type} {decode : Decoder α} {depth : Nat} {value : Value} {a : α}

/-- The decoder reads the value as `a` wherever a text may nest `depth` deeper. -/
def Reads (decode : Decoder α) (depth : Nat) (value : Value) (a : α) : Prop :=
  ∀ room, depth ≤ room → decode room value.tree = .ok a

/-! ### Single values -/

theorem reads_boolean (b : Bool) : Reads boolean depth (.boolean b) b :=
  fun _ _ => rfl

theorem reads_string (text : String) : Reads string depth (.string text) text :=
  fun _ _ => rfl

/-- A value other than `null` is read as if it could not be absent. -/
theorem reads_optional (hvalue : value ≠ .null) (h : Reads decode depth value a) :
    Reads (optional decode) depth value (some a) := by
  intro room hroom
  have hread := h room hroom
  cases value with
  | null => exact absurd rfl hvalue
  | boolean | integer | real | string | array | object =>
    show (decode room _ >>= fun a => pure (some a)) = _
    rw [hread]
    rfl

/-- A sound value is read as it is inspected. -/
theorem reads_whole {read : Tree → Except ShapeError α}
    (hsound : ∀ room, value.tree.sound room) (h : read value.tree = .ok a) :
    Reads (whole read) depth value a := by
  intro room _
  rw [whole, if_pos (hsound room), h]
  rfl

/-- A name is read as what it stands for. -/
theorem reads_name {find : String → Option α} {known : List String} {text : String}
    (h : find text = some a) : Reads (name find known) depth (.string text) a := by
  intro room _
  show name.variant find known text = .ok a
  rw [name.variant, h]

/-! ### Arrays and objects with free keys -/

theorem items_itemTrees {room : Nat} {toValue : α → Value} {l : List α}
    (h : ∀ a ∈ l, decode room (toValue a).tree = .ok a) :
    items decode room (Value.itemTrees (l.map toValue)) = .ok l := by
  induction l with
  | nil => rfl
  | cons a l ih =>
    rw [List.forall_mem_cons] at h
    rw [List.map_cons, Value.itemTrees, items, h.1, ok_bind, ih h.2]
    rfl

/-- An array is read when each of its items is. -/
theorem reads_list {toValue : α → Value} {l : List α}
    (h : ∀ a ∈ l, Reads decode depth (toValue a) a) :
    Reads (list decode) (depth + 1) (.array (l.map toValue)) l := by
  intro room hroom
  -- The array takes one level of the room, and its items have the others.
  obtain ⟨room, rfl⟩ := Nat.exists_eq_add_of_lt hroom
  exact items_itemTrees fun a ha => h a ha _ (by omega)

theorem entries_memberTrees {room : Nat} {toValue : α → Value} {l : List (String × α)}
    (h : ∀ entry ∈ l, decode room (toValue entry.2).tree = .ok entry.2) :
    entries decode room (Value.memberTrees (l.map fun (key, a) => (key, toValue a))) = .ok l := by
  induction l with
  | nil => rfl
  | cons entry l ih =>
    rw [List.forall_mem_cons] at h
    rw [List.map_cons, Value.memberTrees, entries, h.1, ok_bind, ih h.2]
    rfl

/-- An object is read when the value of each key is. -/
theorem reads_map (toValue : α → Value) {m : Keyed α}
    (h : ∀ entry ∈ m.entries, Reads decode depth (toValue entry.2) entry.2) :
    Reads (map decode) (depth + 1)
      (.object (m.entries.map fun (key, a) => (key, toValue a))) m := by
  intro room hroom
  obtain ⟨room, rfl⟩ := Nat.exists_eq_add_of_lt hroom
  have hentries := entries_memberTrees fun entry hmem => h entry hmem (depth + room) (by omega)
  show (entries decode (depth + room) _ >>= fun l => pure (Keyed.ofList l)) = _
  rw [hentries, ok_bind, Keyed.ofList_entries]
  rfl

/-! ### Records -/

/-- Members fill a draft, field by field: the next field is left out or given by the next
member. -/
inductive Fills (depth : Nat) :
    List (Field σ) → List (String × Value) → σ → σ → Prop where
  | nil (draft : σ) : Fills depth [] [] draft draft
  | absent {field fields members draft filled} (rest : Fills depth fields members draft filled) :
    Fills depth (field :: fields) members draft filled
  | given {field fields value members draft next filled}
    (hfilled : field.filled draft = false)
    (hread : ∀ room, depth ≤ room → field.read room value.tree draft = .ok next)
    (rest : Fills depth fields members next filled) :
    Fills depth (field :: fields) ((field.name, value) :: members) draft filled

namespace Fills

variable {fields : List (Field σ)} {members : List (String × Value)} {draft filled : σ}
  {name : String} {opt : Bool} {get : σ → Option α} {set : σ → α → σ}

/-- A field that is given by a member. -/
theorem of (hnone : get draft = none) (hread : Reads decode depth value a)
    (rest : Fills depth fields members (set draft a) filled) :
    Fills depth (.of name opt decode get set :: fields) ((name, value) :: members) draft
      filled := by
  refine given ?_ ?_ rest
  · show (get draft).isSome = false
    rw [hnone]
    rfl
  · intro room hroom
    show (decode room value.tree >>= fun a => pure (set draft a)) = _
    rw [hread room hroom]
    rfl

end Fills

/-- A field is found by its name when no field before it has the name. -/
theorem find?_name {before after : List (Field σ)} {field : Field σ}
    (h : ((before ++ field :: after).map Field.name).Nodup) :
    ((before ++ field :: after).find? fun f => f.name == field.name) = some field := by
  rw [List.map_append, List.nodup_append] at h
  have hbefore : (before.find? fun f => f.name == field.name) = none := by
    rw [List.find?_eq_none]
    intro f hf hname
    exact h.2.2 f.name (List.mem_map_of_mem hf) field.name (by simp) (beq_iff_eq.1 hname)
  rw [List.find?_append, hbefore, Option.none_or, List.find?_cons_of_pos (by simp)]

/-- Members that fill a draft are read into it. -/
theorem recordMembers_of_fills {fields : List (Field σ)} {members : List (String × Value)}
    {draft filled : σ} (h : Fills depth fields members draft filled)
    (before : List (Field σ)) (hnodup : ((before ++ fields).map Field.name).Nodup)
    {room : Nat} (hroom : depth ≤ room) :
    recordMembers (before ++ fields) room (Value.memberTrees members) draft = .ok filled := by
  -- The fields met so far are kept in `before`: a name is looked up among all fields.
  induction h generalizing before with
  | nil => rfl
  | @absent field _ _ _ _ _ ih =>
    rw [List.append_cons] at hnodup ⊢
    exact ih _ hnodup
  | @given field fields value members draft next filled hfilled hread _ ih =>
    -- The member is that of `field`, which has not been given before.
    rw [Value.memberTrees, recordMembers, find?_name hnodup]
    show (if field.filled draft then _ else
      field.read room value.tree draft >>= fun next => _) = _
    rw [hfilled, hread room hroom, List.append_cons]
    rw [List.append_cons] at hnodup
    exact ih _ hnodup

/-- A record is read when its members fill the draft that it is made from. -/
theorem reads_record {title : String} {fields : List (Field σ)} {empty filled : σ}
    {finish : σ → Except ShapeError α} {members : List (String × Value)}
    (hnodup : (fields.map Field.name).Nodup) (hfills : Fills depth fields members empty filled)
    (hfinish : finish filled = .ok a) :
    Reads (record title fields empty finish) (depth + 1) (.object members) a := by
  intro room hroom
  obtain ⟨room, rfl⟩ := Nat.exists_eq_add_of_lt hroom
  have hmembers : recordMembers fields (depth + room) (Value.memberTrees members) empty =
      .ok filled :=
    recordMembers_of_fills hfills [] hnodup (by omega)
  show (recordMembers fields (depth + room) _ empty >>= fun draft =>
    (finish draft).mapError .shape) = _
  rw [hmembers, ok_bind, hfinish]
  rfl

end SchemaMigration.Json.Decoder
