import Mathlib.Data.List.Nodup
import SchemaMigration.Proofs.Json.BuiltTree
import SchemaMigration.Proofs.KeyedEntries
import SchemaMigration.Proofs.Outcome

/-!
# `SchemaMigration.Proofs.Json.Rearrangement`: trees that say the same in another order

A `Change` relates a tree to what may become of it. The changes here follow the way in which
decoders are put together. The members of a record may take any order, and may get others beside
them that are no field (`Change.record`). So may the members of an object with free keys, as long as
no key comes twice (`Change.groups`).

A decoder follows a change when it reads the new tree as the old one, or as something related to
that (`Decoder.Follows`). An array of changed items is read as the same list (`follows_list`). An
object with free keys is read as the same entries, in the order of its members (`follows_groups`).
-/

set_option autoImplicit false

namespace SchemaMigration.Json

open SchemaMigration.Outcome

/-- The items of an array that does not break off. -/
def Items.ofList : List Tree → Items
  | [] => .closed
  | item :: rest => .cons item (ofList rest)

/-- The members of an object that does not break off. -/
def Members.ofList : List (Option String × Tree) → Members
  | [] => .closed
  | (key, value) :: rest => .cons key value (ofList rest)

/-! ### Changes -/

/-- What may become of a tree. -/
abbrev Change := Tree → Tree → Prop

namespace Change

/-- Nothing changes. -/
def same : Change := Eq

/-- A value changes, and `null` stays. -/
inductive optional (change : Change) : Change
  | null : optional change .null .null
  | value {tree tree' : Tree} (h : change tree tree') : optional change tree tree'

/-- The items of an array change, each on its own. -/
inductive list (change : Change) : Change
  | items {l l' : List Tree} (h : List.Forall₂ change l l') :
    list change (.array (.ofList l)) (.array (.ofList l'))

/-- The value of a member changes, and the key stays. -/
def group (change : Change) (member member' : Option String × Tree) : Prop :=
  member'.1 = member.1 ∧ change member.2 member'.2

/-- The values of the members change, each on its own. When the keys are distinct, the members may
take any order. -/
inductive groups (change : Change) : Change
  | inOrder {l l' : List (Option String × Tree)} (h : List.Forall₂ (group change) l l') :
    groups change (.object (.ofList l)) (.object (.ofList l'))
  | permuted {l changed l' : List (Option String × Tree)}
    (h : List.Forall₂ (group change) l changed) (hkeys : (l.map Prod.fst).Nodup)
    (hperm : l'.Perm changed) : groups change (.object (.ofList l)) (.object (.ofList l'))

/-- The change of the value under a key: that of the field with this name. -/
def under (changes : List (String × Change)) (key : Option String) : Change :=
  (key.bind fun name => changes.lookup name).getD same

/-- A member under the key of no field. Its value is any complete one. -/
def Unknown (changes : List (String × Change)) (member : Option String × Tree) : Prop :=
  ∃ key, member.1 = some key ∧ changes.lookup key = none ∧ member.2.complete

/-- Items in the order of the fields change, each as its field may. -/
inductive InOrder : List (String × Change) → List Tree → List Tree → Prop
  | nil {changes : List (String × Change)} : InOrder changes [] []
  | cons {name : String} {change : Change} {changes : List (String × Change)} {item item' : Tree}
    {l l' : List Tree} (h : change item item') (rest : InOrder changes l l') :
    InOrder ((name, change) :: changes) (item :: l) (item' :: l')

/-- The values of a record's fields change, each as its field may. The members take any order, and
others under unknown keys are added. Of a record that is an array only the values change. -/
inductive record (changes : List (String × Change)) : Change
  | members {l changed added l' : List (Option String × Tree)}
    (hchanged : List.Forall₂ (fun member member' => member'.1 = member.1 ∧
      under changes member.1 member.2 member'.2) l changed)
    (hadded : ∀ member ∈ added, Unknown changes member) (hperm : l'.Perm (changed ++ added)) :
    record changes (.object (.ofList l)) (.object (.ofList l'))
  | items {l l' : List Tree} (h : InOrder changes l l') :
    record changes (.array (.ofList l)) (.array (.ofList l'))

theorem record.ne_null {changes : List (String × Change)} {tree tree' : Tree}
    (h : record changes tree tree') : tree ≠ .null ∧ tree' ≠ .null := by
  cases h with
  | members | items => exact ⟨nofun, nofun⟩

end Change

/-! ### Written values -/

theorem Value.tree_array (items : List Value) :
    (Value.array items).tree = .array (.ofList (items.map Value.tree)) := by
  rw [Value.tree]
  refine congrArg Tree.array ?_
  induction items with
  | nil => rfl
  | cons item items ih =>
    rw [itemTrees, ih]
    rfl

theorem Value.tree_object (members : List (String × Value)) : (Value.object members).tree =
    .object (.ofList (members.map fun member => (some member.1, member.2.tree))) := by
  rw [Value.tree]
  refine congrArg Tree.object ?_
  induction members with
  | nil => rfl
  | cons member members ih =>
    rw [memberTrees, ih]
    rfl

/-- The members of a written record in another order, with some changed and others added. -/
theorem rearranged_written {changes : List (String × Change)} {l l' : List (String × Value)}
    (changed added : List (String × Value))
    (hchanged : List.Forall₂ (fun member member' => member'.1 = member.1 ∧
      Change.under changes (some member.1) member.2.tree member'.2.tree) l changed)
    (hadded : ∀ member ∈ added, changes.lookup member.1 = none)
    (hperm : l'.Perm (changed ++ added)) :
    Change.record changes (Value.object l).tree (Value.object l').tree := by
  rw [Value.tree_object, Value.tree_object]
  refine .members (List.forall₂_map_left_iff.2 (List.forall₂_map_right_iff.2 ?_)) ?_
    (List.map_append ▸ hperm.map _)
  · exact hchanged.imp fun _ _ ⟨hkey, hvalue⟩ => ⟨congrArg some hkey, hvalue⟩
  · intro member hmember
    obtain ⟨written, hwritten, rfl⟩ := List.mem_map.1 hmember
    exact ⟨written.1, rfl, hadded written hwritten, written.2.complete_tree⟩

/-! ### Values, arrays and objects with free keys -/

namespace Decoder

variable {α : Type} {decode : Decoder α} {change : Change} {room : Nat}

/-- A tree that the decoder reads can still be read when it has changed. What is read is related to
what it was. -/
def Follows (decode : Decoder α) (r : α → α → Prop) (change : Change) : Prop :=
  ∀ ⦃room : Nat⦄ ⦃tree tree' : Tree⦄ ⦃a : α⦄, change tree tree' → decode room tree = .ok a →
    ∃ a', decode room tree' = .ok a' ∧ r a a'

theorem follows_same (decode : Decoder α) : Follows decode Eq .same := by
  rintro room tree _ a rfl hread
  exact ⟨a, hread, rfl⟩

theorem follows_optional (hnull : ∀ tree tree' : Tree, change tree tree' →
    tree ≠ .null ∧ tree' ≠ .null) (h : Follows decode Eq change) :
    Follows (optional decode) Eq (.optional change) := by
  intro room tree tree' a hchange hread
  cases hchange with
  | null => exact ⟨a, hread, rfl⟩
  | value hvalue =>
    -- Neither value is `null`, so both are read by `decode`.
    have hsome {tree : Tree} (hne : tree ≠ .null) :
        optional decode room tree = (decode room tree >>= fun a => pure (some a)) := by
      cases tree with
      | null => exact absurd rfl hne
      | broken | boolean | number | string | array | object => rfl
    obtain ⟨hbefore, hafter⟩ := hnull _ _ hvalue
    rw [hsome hbefore] at hread
    obtain ⟨b, hdecode, hb⟩ := bind_eq_ok_iff.1 hread
    obtain ⟨_, hdecode', rfl⟩ := h hvalue hdecode
    exact ⟨a, by rw [hsome hafter, hdecode', ok_bind]; exact hb, rfl⟩

theorem items_of_forall₂ (h : Follows decode Eq change) {l l' : List Tree}
    (hchange : List.Forall₂ change l l') {found : List α}
    (hread : items decode room (.ofList l) = .ok found) :
    items decode room (.ofList l') = .ok found := by
  induction hchange generalizing found with
  | nil => exact hread
  | cons hfirst _ ih =>
    obtain ⟨a, hitem, hrest⟩ := bind_eq_ok_iff.1 hread
    obtain ⟨others, hothers, hfound⟩ := bind_eq_ok_iff.1 hrest
    obtain ⟨_, hitem', rfl⟩ := h hfirst hitem
    rw [Items.ofList, items, hitem', ok_bind, ih hothers, ok_bind]
    exact hfound

theorem follows_list (h : Follows decode Eq change) : Follows (list decode) Eq (.list change) := by
  rintro room _ _ found ⟨hitems⟩ hread
  cases room with
  | zero => cases hread
  | succ room => exact ⟨found, items_of_forall₂ h hitems hread, rfl⟩

/-- A member that is read gives one entry. -/
theorem entries_cons_eq_ok_iff {member : Option String × Tree} {l : List (Option String × Tree)}
    {found : List (String × α)} :
    entries decode room (.ofList (member :: l)) = .ok found ↔
      ∃ key a others, member.1 = some key ∧ decode room member.2 = .ok a ∧
        entries decode room (.ofList l) = .ok others ∧ found = (key, a) :: others := by
  obtain ⟨key, value⟩ := member
  cases key with
  | none => exact ⟨nofun, fun ⟨_, _, _, hkey, _⟩ => nomatch hkey⟩
  | some key =>
    rw [Members.ofList, entries, bind_eq_ok_iff]
    constructor
    · rintro ⟨a, hvalue, hrest⟩
      obtain ⟨others, hothers, hend⟩ := bind_eq_ok_iff.1 hrest
      exact ⟨key, a, others, rfl, hvalue, hothers, (Except.ok.inj hend).symm⟩
    · rintro ⟨_, a, others, hkey, hvalue, hothers, rfl⟩
      obtain rfl := Option.some.inj hkey
      exact ⟨a, hvalue, by rw [hothers, ok_bind]; rfl⟩

theorem entries_of_forall₂ (h : Follows decode Eq change) {l l' : List (Option String × Tree)}
    (hchange : List.Forall₂ (Change.group change) l l') {found : List (String × α)}
    (hread : entries decode room (.ofList l) = .ok found) :
    entries decode room (.ofList l') = .ok found := by
  induction hchange generalizing found with
  | nil => exact hread
  | cons hfirst _ ih =>
    obtain ⟨key, a, others, hkey, hvalue, hothers, rfl⟩ := entries_cons_eq_ok_iff.1 hread
    obtain ⟨hsame, hchanged⟩ := hfirst
    obtain ⟨_, hvalue', rfl⟩ := h hchanged hvalue
    exact entries_cons_eq_ok_iff.2 ⟨key, a, others, hsame.trans hkey, hvalue', ih hothers, rfl⟩

/-- The entries have the keys of the members. -/
theorem keys_of_entries {l : List (Option String × Tree)} {found : List (String × α)}
    (hread : entries decode room (.ofList l) = .ok found) :
    l.map Prod.fst = found.map fun entry => some entry.1 := by
  induction l generalizing found with
  | nil =>
    obtain rfl := Except.ok.inj hread
    rfl
  | cons member l ih =>
    obtain ⟨key, a, others, hkey, -, hothers, rfl⟩ := entries_cons_eq_ok_iff.1 hread
    rw [List.map_cons, List.map_cons, ih hothers, hkey]

/-- Members in another order give the entries in another order. -/
theorem entries_perm {l l' : List (Option String × Tree)} (hperm : l.Perm l')
    {found : List (String × α)} (hread : entries decode room (.ofList l) = .ok found) :
    ∃ found', entries decode room (.ofList l') = .ok found' ∧ found.Perm found' := by
  -- The entries come in the order of their members, and take each swap with them.
  induction hperm generalizing found with
  | nil => exact ⟨found, hread, .refl found⟩
  | cons member _ ih =>
    obtain ⟨key, a, others, hkey, hvalue, hothers, rfl⟩ := entries_cons_eq_ok_iff.1 hread
    obtain ⟨others', hothers', hsame⟩ := ih hothers
    exact ⟨_, entries_cons_eq_ok_iff.2 ⟨key, a, others', hkey, hvalue, hothers', rfl⟩,
      hsame.cons _⟩
  | swap first second l =>
    obtain ⟨key, a, others, hkey, hvalue, hrest, rfl⟩ := entries_cons_eq_ok_iff.1 hread
    obtain ⟨key', a', others, hkey', hvalue', hothers, rfl⟩ := entries_cons_eq_ok_iff.1 hrest
    refine ⟨_, entries_cons_eq_ok_iff.2 ⟨key', a', _, hkey', hvalue',
      entries_cons_eq_ok_iff.2 ⟨key, a, others, hkey, hvalue, hothers, rfl⟩, rfl⟩, .swap ..⟩
  | trans _ _ ih ih' =>
    obtain ⟨between, hbetween, hsame⟩ := ih hread
    obtain ⟨found', hfound', hsame'⟩ := ih' hbetween
    exact ⟨found', hfound', hsame.trans hsame'⟩

/-- Groups under distinct keys are read in their order, as the same entries. -/
theorem follows_groups (h : Follows decode Eq change) :
    Follows (map decode) (fun m m' => m'.entries.Perm m.entries) (.groups change) := by
  intro room tree tree' m hchange hread
  cases room with
  | zero => cases hchange <;> cases hread
  | succ room =>
    cases hchange with
    | inOrder hvalues =>
      obtain ⟨found, hfound, hend⟩ := bind_eq_ok_iff.1 hread
      refine ⟨m, ?_, .refl _⟩
      rw [map, entries_of_forall₂ h hvalues hfound, ok_bind]
      exact hend
    | @permuted l changed l' hvalues hkeys hperm =>
      obtain ⟨found, hfound, hend⟩ := bind_eq_ok_iff.1 hread
      obtain rfl := Except.ok.inj hend
      obtain ⟨found', hfound', hsame⟩ :=
        entries_perm hperm.symm (entries_of_forall₂ h hvalues hfound)
      -- The keys are distinct, so the entries are put in as they come.
      have hnodup : (found.map Prod.fst).Nodup := by
        rw [keys_of_entries hfound] at hkeys
        exact List.Nodup.of_map some (by rwa [List.map_map])
      have hnodup' : (found'.map Prod.fst).Nodup := (hsame.map Prod.fst).nodup_iff.1 hnodup
      refine ⟨.ofList found', by rw [map, hfound', ok_bind]; rfl, ?_⟩
      show (Keyed.ofList found').entries.Perm (Keyed.ofList found).entries
      rw [Keyed.entries_ofList hnodup, Keyed.entries_ofList hnodup']
      exact hsame.symm

end Decoder

end SchemaMigration.Json
