import SchemaMigration.Json.Decode
import SchemaMigration.Proofs.Outcome

/-!
# `SchemaMigration.Proofs.Json.CompleteReading`: what is read is complete

A decoder goes through a tree front to back and stops where the tree breaks off. So a tree that it
reads to the end is complete (`Decoder.ReadsComplete`), the members included that it passes over.
There is one lemma for each way to put decoders together.
-/

set_option autoImplicit false

namespace SchemaMigration.Json

open SchemaMigration.Outcome

mutual

/-- A sound value is complete. -/
theorem Tree.complete_of_sound : ∀ {tree : Tree} {room : Nat}, tree.sound room → tree.complete
  | .broken, _, h => nomatch h
  | .null, _, _ | .boolean _, _, _ | .number _, _, _ | .string _, _, _ => rfl
  | .array _, _, h => Items.complete_of_sound (Bool.and_eq_true_iff.1 h).2
  | .object _, _, h => Members.complete_of_sound (Bool.and_eq_true_iff.1 h).2

theorem Items.complete_of_sound : ∀ {items : Items} {room : Nat}, items.sound room →
    items.complete
  | .closed, _, _ => rfl
  | .broken, _, h => nomatch h
  | .cons _ _, _, h => by
    obtain ⟨hitem, hrest⟩ := Bool.and_eq_true_iff.1 h
    exact Bool.and_eq_true_iff.2
      ⟨Tree.complete_of_sound hitem, Items.complete_of_sound hrest⟩

theorem Members.complete_of_sound : ∀ {members : Members} {room : Nat}, members.sound room →
    members.complete
  | .closed, _, _ => rfl
  | .broken, _, h => nomatch h
  | .cons _ _ _, _, h => by
    obtain ⟨hfirst, hrest⟩ := Bool.and_eq_true_iff.1 h
    exact Bool.and_eq_true_iff.2
      ⟨Tree.complete_of_sound (Bool.and_eq_true_iff.1 hfirst).2, Members.complete_of_sound hrest⟩

end

namespace Decoder

variable {α σ : Type} {decode : Decoder α} {room : Nat}

/-- A tree that the decoder reads is complete. -/
def ReadsComplete (decode : Decoder α) : Prop :=
  ∀ {room : Nat} {tree : Tree} {a : α}, decode room tree = .ok a → tree.complete

theorem readsComplete_boolean : ReadsComplete boolean := by
  intro room tree b h
  cases tree with
  | boolean => rfl
  | broken | null | number | string | array | object => cases h

theorem readsComplete_string : ReadsComplete string := by
  intro room tree text h
  cases tree with
  | string => rfl
  | broken | null | boolean | number | array | object => cases h

theorem readsComplete_optional (h : ReadsComplete decode) : ReadsComplete (optional decode) := by
  intro room tree a hread
  cases tree with
  | null => rfl
  | broken | boolean | number | string | array | object =>
    obtain ⟨a, hdecode, -⟩ := bind_eq_ok_iff.1 hread
    exact h hdecode

theorem readsComplete_whole (read : Tree → Except ShapeError α) : ReadsComplete (whole read) := by
  intro room tree a h
  by_cases hsound : tree.sound room
  · exact Tree.complete_of_sound hsound
  · rw [whole, if_neg hsound] at h
    cases h

theorem readsComplete_name (find : String → Option α) (known : List String) :
    ReadsComplete (name find known) := by
  intro room tree a h
  unfold name at h
  split at h
  · rfl
  · cases h
  · obtain ⟨found, -, hrest⟩ := bind_eq_ok_iff.1 h
    -- Nothing may stand behind the key but `null` and the end of the object.
    split at hrest
    · rfl
    · cases hrest
    · cases hrest
  · cases h

/-! ### Arrays and objects with free keys -/

theorem complete_of_items (h : ReadsComplete decode) : ∀ {found : Items} {l : List α},
    items decode room found = .ok l → found.complete
  | .closed, _, _ => rfl
  | .broken, _, hread => nomatch hread
  | .cons _ _, _, hread => by
    obtain ⟨a, hitem, hrest⟩ := bind_eq_ok_iff.1 hread
    obtain ⟨l, hothers, -⟩ := bind_eq_ok_iff.1 hrest
    exact Bool.and_eq_true_iff.2 ⟨h hitem, complete_of_items h hothers⟩

theorem readsComplete_list (h : ReadsComplete decode) : ReadsComplete (list decode) := by
  intro room tree l hread
  unfold list at hread
  split at hread
  · exact complete_of_items h hread
  · cases hread
  · cases hread

theorem complete_of_entries (h : ReadsComplete decode) :
    ∀ {found : Members} {l : List (String × α)}, entries decode room found = .ok l →
      found.complete
  | .closed, _, _ => rfl
  | .broken, _, hread => nomatch hread
  | .cons none _ _, _, hread => nomatch hread
  | .cons (some _) _ _, _, hread => by
    obtain ⟨a, hvalue, hrest⟩ := bind_eq_ok_iff.1 hread
    obtain ⟨l, hothers, -⟩ := bind_eq_ok_iff.1 hrest
    exact Bool.and_eq_true_iff.2 ⟨h hvalue, complete_of_entries h hothers⟩

theorem readsComplete_map (h : ReadsComplete decode) : ReadsComplete (map decode) := by
  intro room tree m hread
  unfold map at hread
  split at hread
  · obtain ⟨l, hentries, -⟩ := bind_eq_ok_iff.1 hread
    exact complete_of_entries h hentries
  · cases hread
  · cases hread

/-! ### Records -/

/-- A value that is read into the field is complete. -/
def Field.ReadsComplete (field : Field σ) : Prop :=
  ∀ {room : Nat} {tree : Tree} {draft next : σ},
    field.read room tree draft = .ok next → tree.complete

theorem Field.readsComplete_of {name : String} {opt : Bool} {get : σ → Option α}
    {set : σ → α → σ} (h : Decoder.ReadsComplete decode) :
    (Field.of name opt decode get set).ReadsComplete := by
  intro room tree draft next hread
  obtain ⟨a, hvalue, -⟩ := bind_eq_ok_iff.1 hread
  exact h hvalue

variable {fields : List (Field σ)}

theorem complete_of_recordMembers (h : ∀ field ∈ fields, field.ReadsComplete) :
    ∀ {members : Members} {draft filled : σ},
      recordMembers fields room members draft = .ok filled → members.complete
  | .closed, _, _, _ => rfl
  | .broken, _, _, hread => nomatch hread
  | .cons none _ _, _, _, hread => nomatch hread
  | .cons (some key) value rest, draft, filled, hread => by
    rw [recordMembers] at hread
    split at hread
    · -- A member that is no field is passed over when its value is complete.
      split at hread
      · next hvalue =>
        exact Bool.and_eq_true_iff.2 ⟨hvalue, complete_of_recordMembers h hread⟩
      · cases hread
    · next field hfind =>
      split at hread
      · cases hread
      · obtain ⟨next, hvalue, hrest⟩ := bind_eq_ok_iff.1 hread
        exact Bool.and_eq_true_iff.2
          ⟨h field (List.mem_of_find?_eq_some hfind) hvalue, complete_of_recordMembers h hrest⟩

theorem complete_of_recordItems {expected : String} (h : ∀ field ∈ fields, field.ReadsComplete)
    {index : Nat} {found : Items} {draft filled : σ}
    (hread : recordItems expected room fields index found draft = .ok filled) :
    found.complete := by
  induction fields generalizing index found draft with
  | nil =>
    cases found with
    | closed => rfl
    | broken | cons => cases hread
  | cons field fields ih =>
    rw [List.forall_mem_cons] at h
    cases found with
    | closed => rfl
    | broken => cases hread
    | cons item rest =>
      obtain ⟨next, hitem, hrest⟩ := bind_eq_ok_iff.1 hread
      exact Bool.and_eq_true_iff.2 ⟨h.1 hitem, ih h.2 hrest⟩

theorem readsComplete_record {title : String} {empty : σ} {finish : σ → Except ShapeError α}
    (h : ∀ field ∈ fields, field.ReadsComplete) :
    ReadsComplete (record title fields empty finish) := by
  intro room tree a hread
  unfold record at hread
  split at hread
  · obtain ⟨filled, hmembers, -⟩ := bind_eq_ok_iff.1 hread
    exact complete_of_recordMembers h hmembers
  · obtain ⟨filled, hitems, -⟩ := bind_eq_ok_iff.1 hread
    exact complete_of_recordItems h hitems
  all_goals cases hread

end Decoder

end SchemaMigration.Json
