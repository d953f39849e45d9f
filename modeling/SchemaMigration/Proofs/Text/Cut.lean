import SchemaMigration.Text.Find

/-!
# `SchemaMigration.Proofs.Text.Cut`: where a mark stands first

`FirstAt` says what it means that a text is divided at the first place where a mark stands,
without a look at how the place is found. `cut?` finds it (`cut?_eq_some_iff`), and it finds
nothing in a text without the mark (`cut?_eq_none_iff`).

A mark of two equal characters may stand in a text at places that overlap. What stands in front
of the first of them has no such mark in it and does not end with the character
(`firstAt_doubled`).
-/

set_option autoImplicit false

namespace SchemaMigration.Text

/-- The mark stands between the two parts of the text, and nowhere before. -/
structure FirstAt (mark text before after : List Char) : Prop where
  eq_append : text = before ++ mark ++ after
  earliest : ∀ front back : List Char, text = front ++ mark ++ back →
    before.length ≤ front.length

/-- A mark that stands in a text is found there, or before. -/
theorem exists_cut?_append (mark front back : List Char) :
    ∃ before after, cut? mark (front ++ (mark ++ back)) = some (before, after) ∧
      before.length ≤ front.length := by
  induction front with
  | nil =>
    refine ⟨[], back, ?_, Nat.le_refl _⟩
    rw [List.nil_append]
    cases mark with
    | nil => cases back <;> rfl
    | cons c mark => simp [cut?, List.isPrefixOf_iff_prefix]
  | cons c front ih =>
    rw [List.cons_append, cut?]
    -- The mark may stand further in front than where it is known to be.
    split
    · exact ⟨[], _, rfl, Nat.zero_le _⟩
    · obtain ⟨before, after, hcut, hlength⟩ := ih
      exact ⟨c :: before, after, by rw [hcut]; rfl, Nat.succ_le_succ hlength⟩

/-- A text is cut where the mark stands first. -/
theorem cut?_eq_some_iff {mark text before after : List Char} :
    cut? mark text = some (before, after) ↔ FirstAt mark text before after := by
  constructor
  · intro hcut
    refine ⟨eq_append_of_cut? hcut, fun front back htext => ?_⟩
    obtain ⟨found, rest, hfound, hlength⟩ := exists_cut?_append mark front back
    rw [← List.append_assoc, ← htext, hcut, Option.some.injEq, Prod.mk.injEq] at hfound
    rwa [hfound.1]
  · rintro ⟨htext, hearliest⟩
    obtain ⟨found, rest, hcut, hlength⟩ := exists_cut?_append mark before after
    rw [← List.append_assoc, ← htext] at hcut
    have hfound := eq_append_of_cut? hcut
    -- The place that is found is not before the first one and not behind it.
    have heq : before.length = found.length := Nat.le_antisymm (hearliest found rest hfound) hlength
    rw [htext, List.append_assoc, List.append_assoc] at hfound
    obtain ⟨rfl, hrest⟩ := List.append_inj hfound heq
    rw [hcut, List.append_cancel_left hrest]

/-- A text is not cut when the mark does not stand in it. -/
theorem cut?_eq_none_iff {mark text : List Char} : cut? mark text = none ↔ ¬ mark <:+: text := by
  constructor
  · rintro hcut ⟨front, back, rfl⟩
    obtain ⟨found, rest, hfound, -⟩ := exists_cut?_append mark front back
    rw [← List.append_assoc, hcut] at hfound
    cases hfound
  · intro hnone
    rw [Option.eq_none_iff_forall_ne_some]
    rintro ⟨before, after⟩ hcut
    exact hnone ⟨before, after, (eq_append_of_cut? hcut).symm⟩

/-- A mark of two equal characters stands behind a text for the first time when the text has no
such mark and does not end with the character. -/
theorem firstAt_doubled {c : Char} {text before after : List Char} :
    FirstAt [c, c] text before after ↔
      text = before ++ [c, c] ++ after ∧ ¬ [c, c] <:+: before ∧ before.getLast? ≠ some c := by
  constructor
  · rintro ⟨rfl, hearliest⟩
    refine ⟨rfl, ?_, ?_⟩
    · rintro ⟨front, back, rfl⟩
      have hlength := hearliest front (back ++ [c, c] ++ after) (by simp)
      simp only [List.length_append, List.length_cons, List.length_nil] at hlength
      omega
    · intro hlast
      obtain ⟨front, rfl⟩ := List.getLast?_eq_some_iff.1 hlast
      have hlength := hearliest front (c :: after) (by simp)
      simp only [List.length_append, List.length_cons, List.length_nil] at hlength
      omega
  · rintro ⟨rfl, hnone, hlast⟩
    refine ⟨rfl, fun front back htext => ?_⟩
    rw [List.append_assoc, List.append_assoc] at htext
    rcases List.append_eq_append_iff.1 htext with ⟨more, rfl, -⟩ | ⟨more, rfl, hmore⟩
    · simp
    · -- The mark would begin in front of where it stands, with one of its characters or both.
      match more, hmore with
      | [], _ => simp
      | [d], hmore =>
        obtain rfl := List.head_eq_of_cons_eq hmore
        exact absurd (by simp) hlast
      | d :: e :: more, hmore =>
        obtain rfl := List.head_eq_of_cons_eq hmore
        obtain rfl := List.head_eq_of_cons_eq (List.tail_eq_of_cons_eq hmore)
        exact absurd ⟨front, more, by simp⟩ hnone

end SchemaMigration.Text
