import Mathlib.Algebra.BigOperators.Group.List.Basic
import Mathlib.Algebra.GroupWithZero.Nat
import SchemaMigration.Proofs.KeyedEntries
import SchemaMigration.Proofs.Schema.Relations

/-!
# `SchemaMigration.Proofs.Schema.RelationCount`: relations counted by group and by table

A model counts its relations group by group. A relation is made of a column of a table, so
they can be counted table by table as well. The two numbers are sums over the same groups
(`relationCount_eq`, `length_relations_eq`). In the first every group counts once, in the second
as often as there are tables with its key.

Nothing makes a group the group of one table. A group that no table has the key of counts for
nothing in the second sum (`Stray`), and two identifiers with one key make a group count twice.
-/

set_option autoImplicit false

namespace SchemaMigration

namespace Keyed

variable {α : Type} (weight : α → Nat)

/-- The weight of what stands under a key, if anything does. -/
def weightUnder (entries : List (String × α)) (key : String) : Nat :=
  ((entries.lookup key).map weight).getD 0

@[simp] theorem weightUnder_nil : weightUnder weight [] = fun _ => 0 := rfl

/-- An entry with a new key adds its weight as often as the key is asked for. -/
theorem sum_weightUnder_cons {key : String} {value : α} {rest : List (String × α)}
    (hnew : key ∉ rest.map Prod.fst) (keys : List String) :
    (keys.map (weightUnder weight ((key, value) :: rest))).sum =
      keys.count key * weight value + (keys.map (weightUnder weight rest)).sum := by
  induction keys with
  | nil => simp
  | cons asked keys ih =>
    rw [List.map_cons, List.map_cons, List.sum_cons, List.sum_cons, ih]
    by_cases h : asked = key
    · -- It is the key of this entry, and of no other.
      subst h
      have hfirst : weightUnder weight ((asked, value) :: rest) asked = weight value := by
        simp [weightUnder]
      have hrest : weightUnder weight rest asked = 0 := by
        simp [weightUnder, lookup_of_not_mem hnew]
      rw [hfirst, hrest, List.count_cons_self, Nat.add_mul]
      omega
    · have hrest : weightUnder weight ((key, value) :: rest) asked =
          weightUnder weight rest asked := by
        rw [weightUnder, weightUnder, List.lookup_cons, beq_false_of_ne h]
      rw [hrest, List.count_cons_of_ne h]
      omega

/-- What stands under keys weighs, all together, each entry as often as its key is asked for. -/
theorem sum_weightUnder {entries : List (String × α)} (hnodup : (entries.map Prod.fst).Nodup)
    (keys : List String) :
    (keys.map (weightUnder weight entries)).sum =
      (entries.map fun entry => keys.count entry.1 * weight entry.2).sum := by
  induction entries with
  | nil => simp
  | cons entry rest ih =>
    rw [List.map_cons, List.nodup_cons] at hnodup
    rw [List.map_cons, List.sum_cons, ← ih hnodup.2]
    exact sum_weightUnder_cons weight hnodup.1 keys

end Keyed

namespace Model

variable {model : Model}

/-- The number of columns that relate to another column. -/
def relationsIn (columns : List Column) : Nat :=
  columns.countP fun column => column.relation?.isSome

/-- The number of tables that have a key. -/
def tablesUnder (model : Model) (key : String) : Nat :=
  (model.tables.map fun table => table.id.key).count key

/-- Among the groups there is one with relations that no table has the key of. -/
def HasStrayRelation (model : Model) : Prop :=
  ∃ group ∈ model.columns.entries, model.tablesUnder group.1 = 0 ∧ 0 < relationsIn group.2

/-- The count of relations takes every group once. -/
theorem relationCount_eq (model : Model) :
    model.relationCount = (model.columns.entries.map fun group => relationsIn group.2).sum := by
  rw [relationCount, ← List.countP_eq_length_filter, List.countP_flatten, Keyed.values,
    List.map_map]
  rfl

theorem length_relationsOf (model : Model) (table : Table) :
    (model.relationsOf table).length = relationsIn (model.columnsOf table) := by
  rw [relationsOf, relationsIn, List.length_filterMap_eq_countP]
  simp only [Option.isSome_map]

/-- A model has the relations of each group as often as there are tables with its key. -/
theorem length_relations_eq (model : Model) :
    model.relations.length =
      (model.columns.entries.map fun group =>
        model.tablesUnder group.1 * relationsIn group.2).sum := by
  have htable (table : Table) : (model.relationsOf table).length =
      Keyed.weightUnder relationsIn model.columns.entries table.id.key := by
    rw [length_relationsOf, columnsOf, Keyed.get?, Keyed.weightUnder]
    cases model.columns.entries.lookup table.id.key <;> rfl
  have hsum := Keyed.sum_weightUnder relationsIn model.columns.nodup_keys
    (model.tables.map fun table => table.id.key)
  rw [List.map_map] at hsum
  rw [relations, List.length_flatMap, List.map_congr_left fun table _ => htable table]
  exact hsum

/-- A model has a relation when a group that a table has the key of has one. -/
theorem hasRelation_iff : model.HasRelation ↔
    ∃ group ∈ model.columns.entries, 0 < model.tablesUnder group.1 ∧ 0 < relationsIn group.2 := by
  rw [← relations_ne_nil_iff, ← List.length_pos_iff, length_relations_eq,
    List.sum_pos_iff_exists_pos_nat]
  constructor
  · intro ⟨count, hcount, hpos⟩
    obtain ⟨group, hgroup, rfl⟩ := List.mem_map.1 hcount
    exact ⟨group, hgroup, Nat.pos_of_mul_pos_right hpos, Nat.pos_of_mul_pos_left hpos⟩
  · intro ⟨group, hgroup, htables, hpos⟩
    exact ⟨_, List.mem_map_of_mem hgroup, Nat.mul_pos htables hpos⟩

/-- The count of relations is not zero when the model has a relation, or a stray one. -/
theorem relationCount_pos_iff :
    0 < model.relationCount ↔ model.HasRelation ∨ model.HasStrayRelation := by
  rw [relationCount_eq, List.sum_pos_iff_exists_pos_nat, hasRelation_iff, HasStrayRelation]
  constructor
  · intro ⟨count, hcount, hpos⟩
    obtain ⟨group, hgroup, rfl⟩ := List.mem_map.1 hcount
    by_cases htables : model.tablesUnder group.1 = 0
    · exact .inr ⟨group, hgroup, htables, hpos⟩
    · exact .inl ⟨group, hgroup, Nat.pos_of_ne_zero htables, hpos⟩
  · rintro (⟨group, hgroup, -, hpos⟩ | ⟨group, hgroup, -, hpos⟩)
    · exact ⟨_, List.mem_map_of_mem hgroup, hpos⟩
    · exact ⟨_, List.mem_map_of_mem hgroup, hpos⟩

/-- Where each group that has relations is that of one table, the count is the number of
relations. -/
theorem relationCount_eq_length
    (h : ∀ group ∈ model.columns.entries,
      0 < relationsIn group.2 → model.tablesUnder group.1 = 1) :
    model.relationCount = model.relations.length := by
  rw [relationCount_eq, length_relations_eq]
  refine congrArg List.sum (List.map_congr_left fun group hgroup => ?_)
  by_cases hnone : relationsIn group.2 = 0
  · rw [hnone, Nat.mul_zero]
  · rw [h group hgroup (Nat.pos_of_ne_zero hnone), Nat.one_mul]

end Model

end SchemaMigration
