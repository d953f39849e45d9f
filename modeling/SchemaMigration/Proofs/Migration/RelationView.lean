import SchemaMigration.Migration.Relations
import SchemaMigration.Proofs.KeyedEntries

/-!
# `SchemaMigration.Proofs.Migration.RelationView`: the relations that a set lists

Adding a relation may join a group or replace a target. When the columns of a
table are distinct and the table is new, it does neither, and the relations of the
table stand behind those already listed (`toList_addTable`).

The groups of a set are entries of a keyed collection, and so are the targets within
a group. The relations of a new table make one group at the end. The first of them
opens it (`entries_foldl_add_new`), and each of the others is added to the group that
is last (`entries_foldl_add_last`).

A group that is there has a relation (`NoEmptyGroup`). The program asks whether there
are groups, not whether there are relations, and `isEmpty_iff` shows that this is the
same.
-/

set_option autoImplicit false

namespace SchemaMigration.RelationSet

/-- The entry of a relation in the group of its table. -/
def entryOf (r : Relation) : String × RelationTarget :=
  (r.column, ⟨r.targetTable, r.targetColumn⟩)

/-! ### Groups -/

/-- A set in which every group has a relation. -/
def NoEmptyGroup (set : RelationSet) : Prop :=
  ∀ group ∈ set.groups.entries, group.2.entries ≠ []

theorem noEmptyGroup_empty : NoEmptyGroup .empty := by
  intro group hgroup
  cases hgroup

/-- A relation that is added leaves no group empty. -/
theorem noEmptyGroup_add {set : RelationSet} (h : NoEmptyGroup set) (r : Relation) :
    NoEmptyGroup (set.add r) := by
  intro group hgroup
  rcases Keyed.mem_put hgroup with rfl | hold
  · exact Keyed.put_ne_nil
  · exact h group hold

theorem noEmptyGroup_addTable {set : RelationSet} (h : NoEmptyGroup set) (table : Table)
    (columns : List Column) : NoEmptyGroup (set.addTable table columns) := by
  unfold addTable
  generalize columns.filterMap (relationOf? table) = relations
  induction relations generalizing set with
  | nil => exact h
  | cons r rest ih => exact ih (noEmptyGroup_add h r)

/-- A set without empty groups is empty when it lists nothing. -/
theorem isEmpty_iff {set : RelationSet} (h : NoEmptyGroup set) :
    set.isEmpty ↔ set.toList = [] := by
  unfold isEmpty toList
  rw [List.isEmpty_iff, List.flatMap_eq_nil_iff]
  constructor
  · -- Without groups there is nothing to list.
    intro hentries group hgroup
    rw [hentries] at hgroup
    cases hgroup
  · -- A group would list the relation that it has.
    intro hnone
    refine List.eq_nil_iff_forall_not_mem.2 fun group hgroup => h group hgroup ?_
    simpa using hnone group hgroup

/-- The relations of a set are those of its groups. -/
theorem mem_toList_iff {set : RelationSet} {r : Relation} :
    r ∈ set.toList ↔
      ∃ group, (r.table, group) ∈ set.groups.entries ∧ entryOf r ∈ group.entries := by
  simp only [toList, List.mem_flatMap, List.mem_map]
  constructor
  · rintro ⟨⟨table, group⟩, hgroup, ⟨column, target⟩, hentry, rfl⟩
    exact ⟨group, hgroup, hentry⟩
  · rintro ⟨group, hgroup, hentry⟩
    exact ⟨(r.table, group), hgroup, entryOf r, hentry, rfl⟩

/-- The size of a set is the number of relations that it lists. -/
theorem size_eq_length (set : RelationSet) : set.size = set.toList.length := by
  rw [size, toList, List.length_flatMap, List.sum_eq_foldl_nat, List.foldl_map, Keyed.values,
    List.foldl_map]
  simp only [List.length_map, Keyed.size]

/-! ### The relations of one table -/

/-- A relation of the last group on a new column goes to the end of the group. -/
theorem entries_add_last {set : RelationSet} {front : List (String × Keyed RelationTarget)}
    {group : Keyed RelationTarget} {r : Relation}
    (hset : set.groups.entries = front ++ [(r.table, group)])
    (hfront : r.table ∉ front.map Prod.fst) (hcolumn : r.column ∉ group.entries.map Prod.fst) :
    ∃ grown : Keyed RelationTarget, grown.entries = group.entries ++ [entryOf r] ∧
      (set.add r).groups.entries = front ++ [(r.table, grown)] := by
  refine ⟨group.insert r.column ⟨r.targetTable, r.targetColumn⟩,
    Keyed.put_of_not_mem hcolumn, ?_⟩
  have hgroup : set.groups.get? r.table = some group := by
    rw [Keyed.get?, hset, Keyed.lookup_append_last hfront]
  simp only [add, hgroup, Option.getD_some, Keyed.insert, hset]
  exact Keyed.put_append_last hfront

/-- Relations of the last group on new and distinct columns go to the end of the group. -/
theorem entries_foldl_add_last {front : List (String × Keyed RelationTarget)} {table : String}
    (hfront : table ∉ front.map Prod.fst) (relations : List Relation)
    (htable : ∀ r ∈ relations, r.table = table) :
    ∀ {set : RelationSet} {group : Keyed RelationTarget},
      set.groups.entries = front ++ [(table, group)] →
      (group.entries.map Prod.fst ++ relations.map (·.column)).Nodup →
      ∃ grown : Keyed RelationTarget, grown.entries = group.entries ++ relations.map entryOf ∧
        (relations.foldl add set).groups.entries = front ++ [(table, grown)] := by
  induction relations with
  | nil => exact fun hset _ => ⟨_, by simp, hset⟩
  | cons r rest ih =>
    -- `r` goes to the end of the last group. The group that has grown is still the last one,
    -- and the columns behind are new to it as well.
    intro set group hset hcolumns
    obtain rfl := htable r (by simp)
    have hcolumn : r.column ∉ group.entries.map Prod.fst := by
      intro hmem
      exact (List.nodup_append.1 hcolumns).2.2 _ hmem _ (by simp) rfl
    obtain ⟨grown, hgrown, hadd⟩ := entries_add_last hset hfront hcolumn
    obtain ⟨final, hfinal, hrest⟩ := ih (fun r' hr' => htable r' (by simp [hr'])) hadd
      (by simpa [hgrown, entryOf] using hcolumns)
    exact ⟨final, by simp [hfinal, hgrown], hrest⟩

/-- The relations of a new table become one group at the end, if there are any. -/
theorem entries_foldl_add_new {set : RelationSet} {table : String}
    (hnew : table ∉ set.groups.keys) (relations : List Relation)
    (htable : ∀ r ∈ relations, r.table = table) (hcolumns : (relations.map (·.column)).Nodup) :
    relations = [] ∧ relations.foldl add set = set ∨
      ∃ group : Keyed RelationTarget, group.entries = relations.map entryOf ∧
        (relations.foldl add set).groups.entries = set.groups.entries ++ [(table, group)] := by
  cases relations with
  | nil => exact .inl ⟨rfl, rfl⟩
  | cons r rest =>
    -- The first relation opens the group of the table, the others find it at the end.
    obtain rfl := htable r (by simp)
    have hnone : set.groups.get? r.table = none := Keyed.lookup_of_not_mem hnew
    have hfirst : (set.add r).groups.entries = set.groups.entries ++
        [(r.table, Keyed.empty.insert r.column ⟨r.targetTable, r.targetColumn⟩)] := by
      simp only [add, hnone, Option.getD_none, Keyed.insert]
      exact Keyed.put_of_not_mem hnew
    obtain ⟨group, hgroup, hrest⟩ := entries_foldl_add_last hnew rest
      (fun r' hr' => htable r' (by simp [hr'])) hfirst
      (by simpa [Keyed.insert, Keyed.put, Keyed.empty] using hcolumns)
    refine .inr ⟨group, ?_, hrest⟩
    simpa [Keyed.insert, Keyed.put, Keyed.empty, entryOf] using hgroup

/-! ### The tables one after the other -/

/-- The relations of a table. -/
def ofTable (table : Table) (columns : List Column) : List Relation :=
  columns.filterMap (relationOf? table)

theorem table_of_mem_ofTable {table : Table} {columns : List Column} {r : Relation}
    (h : r ∈ ofTable table columns) : r.table = table.name := by
  obtain ⟨column, -, hrelation⟩ := List.mem_filterMap.1 h
  obtain ⟨key, -, rfl⟩ := Option.map_eq_some_iff.1 hrelation
  rfl

/-- Distinct columns have relations on distinct columns. -/
theorem nodup_columns_ofTable {table : Table} {columns : List Column}
    (h : (columns.map (·.name)).Nodup) : ((ofTable table columns).map (·.column)).Nodup := by
  -- A column has at most one relation, so the columns of the relations are some of the columns.
  have hsub : ((ofTable table columns).map (·.column)).Sublist (columns.map (·.name)) := by
    induction columns with
    | nil => simp [ofTable]
    | cons column rest ih =>
      have hrest := ih (List.nodup_cons.1 h).2
      unfold ofTable at hrest ⊢
      cases hrelation : column.relation? with
      | none => simpa [relationOf?, hrelation] using hrest.cons _
      | some key => simpa [relationOf?, hrelation] using hrest
  exact h.sublist hsub

/-- A table that is new and whose columns are distinct puts its relations behind those listed
before, and no other table comes in. -/
theorem toList_addTable {set : RelationSet} {table : Table} {columns : List Column}
    (hnew : table.name ∉ set.groups.keys) (hcolumns : (columns.map (·.name)).Nodup) :
    (set.addTable table columns).toList = set.toList ++ ofTable table columns ∧
      ∀ name ∈ (set.addTable table columns).groups.keys,
        name = table.name ∨ name ∈ set.groups.keys := by
  have htable : ∀ r ∈ ofTable table columns, r.table = table.name :=
    fun r => table_of_mem_ofTable
  -- The table has no relations and the set stays, or the set gets one group behind the others.
  rcases entries_foldl_add_new hnew (ofTable table columns) htable
    (nodup_columns_ofTable hcolumns) with ⟨hnone, hsame⟩ | ⟨group, hgroup, hentries⟩
  · rw [show set.addTable table columns = set from hsame, hnone, List.append_nil]
    exact ⟨rfl, fun name => .inr⟩
  · have hgrown : (set.addTable table columns).groups.entries =
        set.groups.entries ++ [(table.name, group)] := hentries
    constructor
    · have hback : (ofTable table columns).map (fun r =>
          (⟨table.name, r.column, r.targetTable, r.targetColumn⟩ : Relation)) =
            (ofTable table columns).map id :=
        List.map_congr_left fun r hr => by rw [← htable r hr]; rfl
      simp [toList, hgrown, hgroup, entryOf, Function.comp_def, hback]
    · intro name hname
      rw [Keyed.keys, hgrown] at hname
      simpa [Keyed.keys, or_comm] using hname

end SchemaMigration.RelationSet

namespace SchemaMigration.RelationBlocks

/-- Both sides of a migration have one line for each relation, in the groups of the set. -/
theorem eq_of_ofSet? {set : RelationSet} {blocks : RelationBlocks} (h : ofSet? set = some blocks) :
    blocks =
      { apply := groupLines (fun _ column target => addLine column target) set
        revert := groupLines (fun table column _ => dropLine table column) set } := by
  unfold ofSet? at h
  split at h
  · cases h
  · exact (Option.some.inj h).symm

end SchemaMigration.RelationBlocks
