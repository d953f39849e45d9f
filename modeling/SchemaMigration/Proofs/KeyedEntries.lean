import SchemaMigration.Keyed

/-!
# `SchemaMigration.Proofs.KeyedEntries`: the entries after an insertion

A new key goes to the end, a key that is there keeps its place. What is found under a key is
the value that was put there last (`lookup_put`).
-/

set_option autoImplicit false

namespace SchemaMigration.Keyed

variable {α : Type} {key : String} {value old : α} {entries front : List (String × α)}

theorem put_of_not_mem (h : key ∉ entries.map Prod.fst) :
    put key value entries = entries ++ [(key, value)] := by
  induction entries with
  | nil => rfl
  | cons entry rest ih =>
    simp only [List.map_cons, List.mem_cons, not_or] at h
    rw [put, if_neg (Ne.symm h.1), ih h.2, List.cons_append]

/-- A new key goes to the end, a key that is there keeps its place. -/
theorem keys_put : (put key value entries).map Prod.fst =
    if key ∈ entries.map Prod.fst then entries.map Prod.fst
    else entries.map Prod.fst ++ [key] := by
  induction entries with
  | nil => rfl
  | cons entry rest ih =>
    rw [put]
    split
    · next hkey => simp [hkey]
    · next hkey =>
      rw [List.map_cons, ih, List.map_cons, List.cons_append]
      simp only [List.mem_cons, Ne.symm hkey, false_or]
      split <;> rfl

theorem put_append_last (h : key ∉ front.map Prod.fst) :
    put key value (front ++ [(key, old)]) = front ++ [(key, value)] := by
  induction front with
  | nil => simp [put]
  | cons entry rest ih =>
    simp only [List.map_cons, List.mem_cons, not_or] at h
    rw [List.cons_append, put, if_neg (Ne.symm h.1), ih h.2, List.cons_append]

/-- An entry after an insertion is the new one or one of those before. -/
theorem mem_put {entry : String × α} (h : entry ∈ put key value entries) :
    entry = (key, value) ∨ entry ∈ entries := by
  induction entries with
  | nil => simpa [put] using h
  | cons first rest ih =>
    rw [put] at h
    split at h
    · rcases List.mem_cons.1 h with h | h
      · exact .inl h
      · exact .inr (List.mem_cons_of_mem _ h)
    · rcases List.mem_cons.1 h with rfl | h
      · exact .inr List.mem_cons_self
      · exact (ih h).imp_right (List.mem_cons_of_mem _)

theorem put_ne_nil : put key value entries ≠ [] := by
  cases entries with
  | nil => simp [put]
  | cons entry rest =>
    rw [put]
    split <;> simp

theorem lookup_of_not_mem (h : key ∉ entries.map Prod.fst) : entries.lookup key = none := by
  rw [List.lookup_eq_none_iff]
  intro entry hentry
  rw [bne_iff_ne]
  rintro rfl
  exact h (List.mem_map_of_mem hentry)

theorem lookup_append_last (h : key ∉ front.map Prod.fst) :
    (front ++ [(key, value)]).lookup key = some value := by
  rw [List.lookup_append, lookup_of_not_mem h]
  simp

/-- The value under a key is the one that was put there last, other keys keep theirs. -/
theorem lookup_put {other : String} :
    (put key value entries).lookup other =
      if other = key then some value else entries.lookup other := by
  have hcons (k : String) (v : α) (rest : List (String × α)) :
      ((k, v) :: rest).lookup other = if other = k then some v else rest.lookup other := by
    by_cases h : other = k
    · rw [h, List.lookup_cons_self, if_pos rfl]
    · rw [List.lookup_cons, beq_false_of_ne h, if_neg h]
  induction entries with
  | nil => exact hcons key value []
  | cons entry rest ih =>
    obtain ⟨k, v⟩ := entry
    rw [put]
    split
    · next hkey =>
      obtain rfl : k = key := hkey
      by_cases h : other = k <;> simp [hcons, h]
    · next hkey =>
      rw [hcons, hcons, ih]
      -- The first entry is not under the key, so of the two questions only one has a yes.
      by_cases h : other = k
      · rw [if_pos h, if_pos h, if_neg (h ▸ hkey)]
      · rw [if_neg h, if_neg h]

theorem get?_insert {m : Keyed α} {other : String} :
    (m.insert key value).get? other = if other = key then some value else m.get? other :=
  lookup_put

/-- New keys are put behind those that are there. -/
theorem entries_foldl_insert {m : Keyed α} (h : ((m.entries ++ entries).map Prod.fst).Nodup) :
    (entries.foldl (fun m (key, value) => m.insert key value) m).entries =
      m.entries ++ entries := by
  induction entries generalizing m with
  | nil => simp
  | cons entry rest ih =>
    have hnew : entry.1 ∉ m.entries.map Prod.fst := by
      rw [List.map_append, List.nodup_append] at h
      exact fun hmem => h.2.2 _ hmem entry.1 (by simp) rfl
    have hentries : (m.insert entry.1 entry.2).entries = m.entries ++ [entry] :=
      put_of_not_mem hnew
    rw [List.foldl_cons, ih, hentries, List.append_assoc, List.singleton_append]
    rwa [hentries, List.append_assoc, List.singleton_append]

/-- Entries with distinct keys are put in as they come. -/
theorem entries_ofList (h : (entries.map Prod.fst).Nodup) : (ofList entries).entries = entries :=
  entries_foldl_insert (m := empty) h

/-- The entries put in one after the other are the entries. -/
theorem ofList_entries (m : Keyed α) : ofList m.entries = m := by
  have h : (ofList m.entries).entries = m.entries := entries_ofList m.nodup_keys
  generalize ofList m.entries = made at h
  cases made
  cases m
  cases h
  rfl

theorem lookup_eq_some_iff (h : (entries.map Prod.fst).Nodup) :
    entries.lookup key = some value ↔ (key, value) ∈ entries := by
  induction entries with
  | nil => simp
  | cons entry rest ih =>
    obtain ⟨first, old⟩ := entry
    rw [List.map_cons, List.nodup_cons] at h
    rw [List.lookup_cons, List.mem_cons, Prod.mk.injEq]
    by_cases hkey : key = first
    · -- The key is that of this entry, and of no other.
      subst hkey
      have hrest : (key, value) ∉ rest :=
        fun hmem => h.1 (List.mem_map.2 ⟨(key, value), hmem, rfl⟩)
      simp [hrest, eq_comm]
    · rw [beq_false_of_ne hkey]
      simp [ih h.2, hkey]

/-- Entries in another order have the same values under their keys. -/
theorem lookup_perm {other : List (String × α)} (h : other.Perm entries)
    (hnodup : (entries.map Prod.fst).Nodup) (key : String) :
    other.lookup key = entries.lookup key := by
  have hother : (other.map Prod.fst).Nodup := (h.map Prod.fst).nodup_iff.2 hnodup
  refine Option.ext fun value => ?_
  rw [lookup_eq_some_iff hother, lookup_eq_some_iff hnodup, h.mem_iff]

/-- A value stands under a key when it is the value of an entry with the key. -/
theorem get?_eq_some_iff {m : Keyed α} : m.get? key = some value ↔ (key, value) ∈ m.entries :=
  lookup_eq_some_iff m.nodup_keys

/-- The same entries in another order have the same values under their keys. -/
theorem get?_perm {m m' : Keyed α} (h : m'.entries.Perm m.entries) (key : String) :
    m'.get? key = m.get? key :=
  lookup_perm h m.nodup_keys key

end SchemaMigration.Keyed
