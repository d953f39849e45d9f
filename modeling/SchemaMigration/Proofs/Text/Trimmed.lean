import Mathlib.Data.List.DropRight
import SchemaMigration.Text.Blank

/-!
# `SchemaMigration.Proofs.Text.Trimmed`: a text without the blanks around it

What `trimChars` leaves of a text has nothing but blanks in front of it and behind it, and is not
blank at either end itself (`Trimmed`). No other part of the text is like that
(`trimChars_eq_iff`).
-/

set_option autoImplicit false

namespace SchemaMigration.Text

variable {front text back : List Char}

/-- Neither end of a text is blank. -/
structure Trimmed (text : List Char) : Prop where
  head : ∀ c ∈ text.head?, isBlank c = false
  last : ∀ c ∈ text.getLast?, isBlank c = false

/-- A text without blanks is trimmed. -/
theorem Trimmed.of_forall (h : ∀ c ∈ text, isBlank c = false) : Trimmed text where
  head c hc := h c (List.mem_of_head? hc)
  last c hc := h c (List.mem_of_getLast? hc)

theorem trimChars_eq_rdropWhile (text : List Char) :
    trimChars text = (text.dropWhile isBlank).rdropWhile isBlank := rfl

/-- Nothing is left of a blank text, and of no other one. -/
theorem trimChars_eq_nil_iff : trimChars text = [] ↔ ∀ c ∈ text, isBlank c := by
  rw [trimChars_eq_rdropWhile, List.rdropWhile_eq_nil_iff]
  constructor
  · intro h
    have hnil : text.dropWhile isBlank = [] := by
      by_contra hne
      have hhead := List.head_dropWhile_not isBlank hne
      rw [h _ (List.head_mem hne)] at hhead
      cases hhead
    exact List.dropWhile_eq_nil_iff.1 hnil
  · exact fun h c hc => h c (List.dropWhile_suffix isBlank |>.subset hc)

/-- Blanks in front are dropped up to a character that is none. -/
theorem dropWhile_isBlank_append (hfront : ∀ c ∈ front, isBlank c)
    (hhead : ∀ c ∈ text.head?, isBlank c = false) :
    (front ++ text).dropWhile isBlank = text := by
  rw [List.dropWhile_append_of_pos hfront]
  cases text with
  | nil => rfl
  | cons c text => exact List.dropWhile_cons_of_neg (by simpa using hhead c rfl)

/-- The blanks around a trimmed text are dropped. -/
theorem Trimmed.trimChars_append (h : Trimmed text) (hfront : ∀ c ∈ front, isBlank c)
    (hback : ∀ c ∈ back, isBlank c) : trimChars (front ++ text ++ back) = text := by
  -- An empty text has no first character that would stop the trimming, so it is apart.
  by_cases hnil : text = []
  · subst hnil
    rw [List.append_nil, trimChars_eq_nil_iff]
    exact List.forall_mem_append.2 ⟨hfront, hback⟩
  have hhead : ∀ c ∈ (text ++ back).head?, isBlank c = false := by
    rw [List.head?_append_of_ne_nil _ hnil]
    exact h.head
  have hlast : ∀ c ∈ text.reverse.head?, isBlank c = false := by
    rw [List.head?_reverse]
    exact h.last
  rw [trimChars, List.append_assoc, dropWhile_isBlank_append hfront hhead, List.reverse_append,
    dropWhile_isBlank_append (by simpa using hback) hlast, List.reverse_reverse]

theorem trimmed_trimChars (text : List Char) : Trimmed (trimChars text) where
  head := by
    intro c hc
    obtain ⟨rest, hrest⟩ := List.head?_eq_some_iff.1 hc
    -- What is left in front has been in front since the blanks there were dropped.
    obtain ⟨after, hafter⟩ := List.rdropWhile_prefix isBlank (text.dropWhile isBlank)
    rw [← trimChars_eq_rdropWhile, hrest] at hafter
    have hhead : (text.dropWhile isBlank).head? = some c := by rw [← hafter]; rfl
    have hnot := List.head?_dropWhile_not isBlank text
    rw [hhead] at hnot
    exact hnot
  last := by
    intro c hc
    rw [trimChars, List.getLast?_reverse, Option.mem_def] at hc
    have hnot := List.head?_dropWhile_not isBlank (text.dropWhile isBlank).reverse
    rw [hc] at hnot
    exact hnot

/-- What trimming leaves of a text: the trimmed part that has nothing but blanks around it. -/
theorem trimChars_eq_iff {whole : List Char} :
    trimChars whole = text ↔ Trimmed text ∧ ∃ front back, whole = front ++ text ++ back ∧
      (∀ c ∈ front, isBlank c) ∧ ∀ c ∈ back, isBlank c := by
  constructor
  · rintro rfl
    refine ⟨trimmed_trimChars whole, whole.takeWhile isBlank,
      (whole.dropWhile isBlank).rtakeWhile isBlank, ?_, fun _ => List.mem_takeWhile_imp,
      fun _ => List.mem_rtakeWhile_imp⟩
    rw [trimChars_eq_rdropWhile, List.append_assoc, List.rdropWhile_append_rtakeWhile,
      List.takeWhile_append_dropWhile]
  · rintro ⟨htrimmed, front, back, rfl, hfront, hback⟩
    exact htrimmed.trimChars_append hfront hback

/-- A trimmed text has no blanks to trim. -/
theorem trimChars_trimChars (text : List Char) : trimChars (trimChars text) = trimChars text :=
  trimChars_eq_iff.2 ⟨trimmed_trimChars text, [], [], by simp, by simp, by simp⟩

end SchemaMigration.Text
