/-!
# `SchemaMigration.Keyed`: values under keys, in order of arrival

A list of entries with distinct keys. A key that is given again keeps its place
and takes the new value, a new key goes to the end.
-/

set_option autoImplicit false

namespace SchemaMigration

/-- Values under distinct keys, in the order in which the keys first came. -/
structure Keyed (α : Type) where
  entries : List (String × α)
  nodup_keys : (entries.map Prod.fst).Nodup := by simp
  deriving DecidableEq, Repr

namespace Keyed

variable {α : Type}

/-- No keys. -/
def empty : Keyed α := ⟨[], by simp⟩

instance : Inhabited (Keyed α) := ⟨empty⟩

/-- The keys in order. -/
def keys (m : Keyed α) : List String :=
  m.entries.map Prod.fst

/-- The values in order of their keys. -/
def values (m : Keyed α) : List α :=
  m.entries.map Prod.snd

/-- The number of keys. -/
def size (m : Keyed α) : Nat :=
  m.entries.length

/-- The value under a key. -/
def get? (m : Keyed α) (key : String) : Option α :=
  m.entries.lookup key

/-- Puts a value under a key of a list of entries. -/
def put (key : String) (value : α) : List (String × α) → List (String × α)
  | [] => [(key, value)]
  | entry :: rest =>
    if entry.1 = key then (key, value) :: rest else entry :: put key value rest

theorem mem_keys_put {key k : String} {value : α} {entries : List (String × α)} :
    k ∈ (put key value entries).map Prod.fst ↔ k = key ∨ k ∈ entries.map Prod.fst := by
  induction entries with
  | nil => simp [put]
  | cons entry rest ih =>
    by_cases h : entry.1 = key
    · simp [put, h]
    · simp only [put, h, if_false, List.map_cons, List.mem_cons, ih]
      grind

theorem nodup_keys_put {key : String} {value : α} {entries : List (String × α)}
    (h : (entries.map Prod.fst).Nodup) : ((put key value entries).map Prod.fst).Nodup := by
  induction entries with
  | nil => simp [put]
  | cons entry rest ih =>
    by_cases hk : entry.1 = key
    · subst hk
      simpa [put] using h
    · simp only [List.map_cons, List.nodup_cons] at h
      rw [put, if_neg hk, List.map_cons, List.nodup_cons, mem_keys_put]
      exact ⟨not_or.2 ⟨hk, h.1⟩, ih h.2⟩

/-- Puts a value under a key. -/
def insert (m : Keyed α) (key : String) (value : α) : Keyed α where
  entries := put key value m.entries
  nodup_keys := nodup_keys_put m.nodup_keys

/-- The entries of a list, put in one after the other. -/
def ofList (entries : List (String × α)) : Keyed α :=
  entries.foldl (fun m (key, value) => m.insert key value) empty

end Keyed

end SchemaMigration
