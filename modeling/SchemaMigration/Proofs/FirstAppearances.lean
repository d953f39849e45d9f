import Mathlib.Data.Finset.Card

/-!
# `SchemaMigration.Proofs.FirstAppearances`: the elements of a list as they first come

`List.eraseDups` keeps the first of equal elements. What is told of a history in the order in
which it first came is the history without its repetitions. One more event makes it longer by one
when it is new (`eraseDups_concat`), and its length counts the distinct events
(`length_eraseDups`).
-/

set_option autoImplicit false

namespace SchemaMigration.FirstAppearances

variable {α : Type} [DecidableEq α]

/-- An element that comes last is kept when it has not been there before. -/
theorem eraseDups_concat (l : List α) (a : α) :
    (l ++ [a]).eraseDups = if a ∈ l then l.eraseDups else l.eraseDups ++ [a] := by
  rw [List.eraseDups_append]
  by_cases h : a ∈ l
  · rw [if_pos h]
    simp [List.removeAll, h]
  · rw [if_neg h]
    simp [List.removeAll, h, List.eraseDups_cons]

theorem eraseDups_eq_nil_iff {l : List α} : l.eraseDups = [] ↔ l = [] := by
  rw [List.eq_nil_iff_forall_not_mem, List.eq_nil_iff_forall_not_mem]
  exact forall_congr' fun a => not_congr List.mem_eraseDups

theorem nodup_eraseDups (l : List α) : l.eraseDups.Nodup := by
  induction l using List.reverseRecOn with
  | nil => simp
  | append_singleton l a ih =>
    rw [eraseDups_concat]
    split
    · exact ih
    · next h =>
      have hnew : a ∉ l.eraseDups := List.mem_eraseDups.not.2 h
      exact List.concat_eq_append ▸ ih.concat hnew

/-- There are as many elements as there are distinct ones in the list. -/
theorem length_eraseDups (l : List α) : l.eraseDups.length = l.toFinset.card := by
  rw [← List.toFinset_card_of_nodup (nodup_eraseDups l)]
  congr 1
  ext a
  rw [List.mem_toFinset, List.mem_toFinset, List.mem_eraseDups]

end SchemaMigration.FirstAppearances
