/-!
# `SchemaMigration.Text.Find`: the first place where a mark stands

`cut?` splits a text around the first occurrence of a mark. Nothing is lost: the
two parts with the mark between them are the text (`eq_append_of_cut?`).
-/

set_option autoImplicit false

namespace SchemaMigration.Text

/-- The text before the first occurrence of `mark` and the text after it. -/
def cut? (mark : List Char) : List Char → Option (List Char × List Char)
  | [] => if mark.isEmpty then some ([], []) else none
  | c :: rest =>
    if mark.isPrefixOf (c :: rest) then some ([], (c :: rest).drop mark.length)
    else (cut? mark rest).map fun (before, after) => (c :: before, after)

theorem eq_append_of_cut? {mark text before after : List Char}
    (h : cut? mark text = some (before, after)) : text = before ++ mark ++ after := by
  induction text generalizing before with
  | nil =>
    simp only [cut?, List.isEmpty_iff] at h
    split at h
    · next hm => simp_all
    · simp at h
  | cons c rest ih =>
    simp only [cut?] at h
    split at h
    · next hm =>
      obtain ⟨tail, htail⟩ := List.isPrefixOf_iff_prefix.1 hm
      simp only [Option.some.injEq, Prod.mk.injEq] at h
      obtain ⟨rfl, rfl⟩ := h
      simp [← htail]
    · obtain ⟨⟨b, a⟩, hb, hpair⟩ := Option.map_eq_some_iff.1 h
      simp only [Prod.mk.injEq] at hpair
      obtain ⟨rfl, rfl⟩ := hpair
      simp [ih hb]

/-- Whether `mark` occurs in `text`. -/
def contains (mark text : List Char) : Bool :=
  (cut? mark text).isSome

end SchemaMigration.Text
