import SchemaMigration.Proofs.FirstAppearances
import SchemaMigration.Proofs.Migration.RelationView

/-!
# `SchemaMigration.Proofs.Migration.RelationHistory`: what a set of relations keeps of its history

A set grows by a relation, or by the relations of a table, call after call. Every relation
that is registered counts, in the order of the calls (`historyOf`), also when its table or its
column has been registered before.

Two things are kept of a history. The order is that in which the tables came first and, within a
table, that in which its columns came first (`sourcesOf`). The target of a column is the one that
was registered last (`Latest`). `Keeps` has both for the groups of a set. One more relation keeps
them (`Keeps.add`), so they hold after any calls (`keeps_performAll`).

`listed_history` says this of the list of relations and of the numbers that a set answers.
-/

set_option autoImplicit false

namespace SchemaMigration

/-! ### Histories -/

namespace Relation

/-- The column that a relation is about, with its table. -/
def source (r : Relation) : String × String :=
  (r.table, r.column)

/-- What a relation refers to. -/
def target (r : Relation) : RelationTarget :=
  ⟨r.targetTable, r.targetColumn⟩

theorem eq_iff {r s : Relation} : r = s ↔ r.source = s.source ∧ r.target = s.target := by
  cases r
  cases s
  simp [source, target, and_assoc]

/-- A relation that is put in the place of one about the same column. -/
theorem source_ite (r s : Relation) : (if s.source = r.source then r else s).source = s.source := by
  split
  · next h => exact h.symm
  · rfl

/-- The relation is in the history, and none behind it is about the same column. -/
def Latest (history : List Relation) (r : Relation) : Prop :=
  ∃ before after, history = before ++ r :: after ∧ ∀ later ∈ after, later.source ≠ r.source

/-- A relation that is registered is the latest one, and hides those that are about its column. -/
theorem latest_concat_iff {history : List Relation} {r s : Relation} :
    Latest (history ++ [r]) s ↔ s = r ∨ s.source ≠ r.source ∧ Latest history s := by
  constructor
  · rintro ⟨before, after, hsplit, hlast⟩
    -- Nothing comes behind `s` and it is the new relation, or the new one comes last behind it.
    rcases List.eq_nil_or_concat' after with rfl | ⟨after, later, rfl⟩
    · exact .inl (List.append_inj_right' hsplit rfl |> List.head_eq_of_cons_eq).symm
    · rw [← List.cons_append, ← List.append_assoc] at hsplit
      obtain ⟨rfl, hr⟩ := List.append_inj' hsplit rfl
      obtain rfl := List.head_eq_of_cons_eq hr
      exact .inr ⟨(hlast r (by simp)).symm,
        before, after, rfl, fun later hlater => hlast later (by simp [hlater])⟩
  · rintro (rfl | ⟨hsource, before, after, rfl, hlast⟩)
    · exact ⟨history, [], rfl, by simp⟩
    · refine ⟨before, after ++ [r], by simp, fun later hlater => ?_⟩
      rcases List.mem_append.1 hlater with hlater | hlater
      · exact hlast later hlater
      · rw [List.mem_singleton.1 hlater]
        exact hsource.symm

/-- The columns of a table in the order in which they first came. -/
def columnsOf (history : List Relation) (table : String) : List String :=
  ((history.filter (·.table = table)).map (·.column)).eraseDups

/-- The columns of a history with their tables: the tables in the order in which they first came,
and behind each of them its columns in the order in which they first came. -/
def sourcesOf (history : List Relation) : List (String × String) :=
  (history.map (·.table)).eraseDups.flatMap fun table =>
    (columnsOf history table).map fun column => (table, column)

theorem columnsOf_concat (history : List Relation) (r : Relation) (table : String) :
    columnsOf (history ++ [r]) table =
      if table = r.table ∧ r.column ∉ columnsOf history table then
        columnsOf history table ++ [r.column]
      else columnsOf history table := by
  unfold columnsOf
  rw [List.filter_append]
  by_cases htable : r.table = table
  · rw [List.filter_cons_of_pos (by simpa using htable), List.filter_nil, List.map_append,
      List.map_singleton, FirstAppearances.eraseDups_concat]
    simp only [List.mem_eraseDups, htable, true_and]
    split <;> simp_all
  · rw [List.filter_cons_of_neg (by simpa using htable), List.filter_nil, List.append_nil,
      if_neg fun h => htable h.1.symm]

theorem mem_columnsOf_iff {history : List Relation} {table column : String} :
    column ∈ columnsOf history table ↔ (table, column) ∈ history.map source := by
  simp only [columnsOf, List.mem_eraseDups, List.mem_map, List.mem_filter, decide_eq_true_eq,
    source, Prod.mk.injEq]
  exact exists_congr fun r => by rw [and_assoc]

theorem mem_sourcesOf_iff {history : List Relation} {pair : String × String} :
    pair ∈ sourcesOf history ↔ pair ∈ history.map source := by
  obtain ⟨table, column⟩ := pair
  rw [sourcesOf, List.mem_flatMap, ← mem_columnsOf_iff]
  constructor
  · rintro ⟨other, -, hpair⟩
    obtain ⟨_, hcolumn, heq⟩ := List.mem_map.1 hpair
    obtain ⟨rfl, rfl⟩ := Prod.mk.inj heq
    exact hcolumn
  · intro hcolumn
    refine ⟨table, ?_, List.mem_map_of_mem hcolumn⟩
    obtain ⟨r, hr, hsource⟩ := List.mem_map.1 (mem_columnsOf_iff.1 hcolumn)
    obtain ⟨rfl, -⟩ := Prod.mk.inj hsource
    exact List.mem_eraseDups.2 (List.mem_map_of_mem hr)

theorem nodup_sourcesOf (history : List Relation) : (sourcesOf history).Nodup := by
  rw [sourcesOf, List.nodup_flatMap]
  constructor
  · intro table _
    refine (FirstAppearances.nodup_eraseDups _).map fun column other heq => (Prod.mk.inj heq).2
  · refine (FirstAppearances.nodup_eraseDups _).imp fun hne => ?_
    rintro pair hfirst hsecond
    obtain ⟨_, -, rfl⟩ := List.mem_map.1 hfirst
    obtain ⟨_, -, heq⟩ := List.mem_map.1 hsecond
    exact hne (Prod.mk.inj heq).1.symm

/-- A column that comes again changes nothing in the order. -/
theorem sourcesOf_concat_of_mem {history : List Relation} {r : Relation}
    (h : r.source ∈ history.map source) : sourcesOf (history ++ [r]) = sourcesOf history := by
  have htable : r.table ∈ history.map (·.table) := by
    obtain ⟨s, hs, hsource⟩ := List.mem_map.1 h
    exact List.mem_map.2 ⟨s, hs, (Prod.mk.inj hsource).1⟩
  have hcolumns (table : String) : columnsOf (history ++ [r]) table = columnsOf history table := by
    rw [columnsOf_concat, if_neg]
    rintro ⟨rfl, hnew⟩
    exact hnew (mem_columnsOf_iff.2 h)
  rw [sourcesOf, List.map_append, List.map_singleton, FirstAppearances.eraseDups_concat,
    if_pos htable]
  simp only [hcolumns]
  rfl

end Relation

namespace RelationSet

open SchemaMigration.Relation (Latest columnsOf columnsOf_concat sourcesOf)

/-! ### Calls -/

/-- The ways in which a set grows. -/
inductive Call where
  | add (r : Relation)
  | addTable (table : Table) (columns : List Column)

/-- The set after a call. -/
def Call.perform (set : RelationSet) : Call → RelationSet
  | .add r => set.add r
  | .addTable table columns => set.addTable table columns

/-- The relations that a call registers. -/
def Call.registered : Call → List Relation
  | .add r => [r]
  | .addTable table columns => ofTable table columns

/-- The set after calls, one after the other. -/
def performAll (calls : List Call) : RelationSet :=
  calls.foldl Call.perform .empty

/-- The relations that calls register, in their order. -/
def historyOf (calls : List Call) : List Relation :=
  calls.flatMap Call.registered

/-- A call adds the relations that it registers. -/
theorem perform_eq (set : RelationSet) (call : Call) :
    call.perform set = call.registered.foldl add set := by
  cases call <;> rfl

theorem performAll_eq (calls : List Call) :
    performAll calls = (historyOf calls).foldl add .empty := by
  rw [performAll, historyOf, List.foldl_flatMap]
  congr
  funext set call
  exact perform_eq set call

/-! ### What is kept -/

/-- The relations of a table. -/
def group (set : RelationSet) (table : String) : Keyed RelationTarget :=
  (set.groups.get? table).getD .empty

theorem group_add (set : RelationSet) (r : Relation) (table : String) :
    (set.add r).group table =
      if table = r.table then (set.group r.table).insert r.column r.target
      else set.group table := by
  unfold group add
  rw [Keyed.get?_insert]
  split <;> rfl

theorem group_eq_of_mem {set : RelationSet} {table : String} {group : Keyed RelationTarget}
    (h : (table, group) ∈ set.groups.entries) : set.group table = group := by
  rw [RelationSet.group, Keyed.get?_eq_some_iff.2 h, Option.getD_some]

/-- A relation is listed when it is the one of its column. -/
theorem mem_toList_iff_get? {set : RelationSet} {r : Relation} :
    r ∈ set.toList ↔ (set.group r.table).get? r.column = some r.target := by
  rw [mem_toList_iff]
  constructor
  · rintro ⟨group, hgroup, hentry⟩
    rw [group_eq_of_mem hgroup]
    exact Keyed.get?_eq_some_iff.2 hentry
  · intro hget
    -- A table without a group has an empty one, in which no column is found.
    cases hgroup : set.groups.get? r.table with
    | none =>
      rw [group, hgroup, Option.getD_none] at hget
      cases hget
    | some found =>
      refine ⟨found, Keyed.get?_eq_some_iff.1 hgroup, ?_⟩
      rw [group, hgroup, Option.getD_some] at hget
      exact Keyed.get?_eq_some_iff.1 hget

/-- The columns that are listed, group by group. -/
theorem map_source_toList (set : RelationSet) :
    set.toList.map Relation.source = set.groups.keys.flatMap fun table =>
      (set.group table).keys.map fun column => (table, column) := by
  rw [toList, List.map_flatMap, Keyed.keys, List.flatMap_map]
  refine List.flatMap_congr fun entry hentry => ?_
  rw [group_eq_of_mem hentry, Keyed.keys, List.map_map, List.map_map]
  rfl

/-- The groups keep of a history the order of its tables and columns, and the latest relation of
each column. -/
structure Keeps (set : RelationSet) (history : List Relation) : Prop where
  tables : set.groups.keys = (history.map (·.table)).eraseDups
  columns : ∀ table, (set.group table).keys = columnsOf history table
  latest : ∀ r, (set.group r.table).get? r.column = some r.target ↔ Latest history r

theorem keeps_empty : Keeps .empty [] where
  tables := rfl
  columns := fun _ => rfl
  latest := fun r => by
    constructor
    · intro hget
      cases hget
    · rintro ⟨before, after, hsplit, -⟩
      simp at hsplit

/-- What is kept of a history is kept when a relation is added to both. -/
theorem Keeps.add {set : RelationSet} {history : List Relation} (h : Keeps set history)
    (r : Relation) : Keeps (set.add r) (history ++ [r]) where
  -- A table or column that is there keeps its place. A new one comes last.
  tables := by
    have hkeys : (set.add r).groups.keys =
        if r.table ∈ set.groups.keys then set.groups.keys else set.groups.keys ++ [r.table] :=
      Keyed.keys_put
    rw [hkeys, List.map_append, List.map_singleton, FirstAppearances.eraseDups_concat, h.tables]
    simp only [List.mem_eraseDups]
  columns := fun table => by
    rw [group_add, columnsOf_concat, ← h.columns table]
    by_cases htable : table = r.table
    · subst htable
      have hkeys : ((set.group r.table).insert r.column r.target).keys =
          if r.column ∈ (set.group r.table).keys then (set.group r.table).keys
          else (set.group r.table).keys ++ [r.column] := Keyed.keys_put
      rw [if_pos rfl, hkeys]
      simp only [true_and, ite_not]
    · rw [if_neg htable, if_neg fun hnew => htable hnew.1]
  -- Adding replaces the target of the same table and column, and of no other.
  latest := fun s => by
    rw [Relation.latest_concat_iff, ← h.latest s, group_add, Relation.eq_iff]
    by_cases htable : s.table = r.table
    · rw [if_pos htable, Keyed.get?_insert, ← htable]
      by_cases hcolumn : s.column = r.column
      · simp [Relation.source, htable, hcolumn, eq_comm]
      · simp [Relation.source, hcolumn]
    · simp [Relation.source, htable]

/-- The columns are listed in the order of the history. -/
theorem Keeps.map_source {set : RelationSet} {history : List Relation} (h : Keeps set history) :
    set.toList.map Relation.source = sourcesOf history := by
  rw [map_source_toList, h.tables, sourcesOf]
  simp only [h.columns]

/-- What is listed is the latest relation of each column. -/
theorem Keeps.mem_toList_iff {set : RelationSet} {history : List Relation} (h : Keeps set history)
    (r : Relation) : r ∈ set.toList ↔ Latest history r :=
  mem_toList_iff_get?.trans (h.latest r)

/-- Lists that are about the same columns are the same when their relations agree. -/
theorem eq_of_map_source {l l' : List Relation}
    (hsources : l.map Relation.source = l'.map Relation.source)
    (hagree : ∀ r ∈ l, ∀ s ∈ l', r.source = s.source → r = s) : l = l' := by
  induction l generalizing l' with
  | nil => exact (List.map_eq_nil_iff.1 hsources.symm).symm
  | cons r l ih =>
    cases l' with
    | nil => cases hsources
    | cons s l' =>
      obtain ⟨hfirst, hrest⟩ := List.cons.inj hsources
      rw [hagree r (by simp) s (by simp) hfirst, ih hrest fun r' hr' s' hs' =>
        hagree r' (by simp [hr']) s' (by simp [hs'])]

/-- A column that is registered again keeps its place and takes the new target. -/
theorem Keeps.toList_add_again {set : RelationSet} {history : List Relation} {r : Relation}
    (h : Keeps set history) (hagain : r.source ∈ history.map Relation.source) :
    (set.add r).toList = set.toList.map fun s => if s.source = r.source then r else s := by
  refine eq_of_map_source ?_ ?_
  · rw [(h.add r).map_source, Relation.sourcesOf_concat_of_mem hagain, List.map_map,
      ← h.map_source]
    exact List.map_congr_left fun s _ => (Relation.source_ite r s).symm
  · intro s hs s' hs' hsource
    obtain ⟨old, hold, rfl⟩ := List.mem_map.1 hs'
    rw [Relation.source_ite] at hsource
    rcases Relation.latest_concat_iff.1 (((h.add r).mem_toList_iff s).1 hs) with
      rfl | ⟨hne, hlatest⟩
    · rw [if_pos hsource.symm]
    · rw [if_neg (hsource ▸ hne)]
      -- Of one column there is one latest relation.
      have hget := mem_toList_iff_get?.1 ((h.mem_toList_iff s).2 hlatest)
      have hget' := mem_toList_iff_get?.1 hold
      obtain ⟨htable, hcolumn⟩ := Prod.mk.inj hsource
      rw [htable, hcolumn, hget'] at hget
      exact Relation.eq_iff.2 ⟨hsource, (Option.some.inj hget).symm⟩

theorem keeps_foldl_add (history : List Relation) : Keeps (history.foldl add .empty) history := by
  induction history using List.reverseRecOn with
  | nil => exact keeps_empty
  | append_singleton history r ih =>
    rw [List.foldl_append]
    exact ih.add r

/-- After any calls the set keeps of their history what it should. -/
theorem keeps_performAll (calls : List Call) : Keeps (performAll calls) (historyOf calls) := by
  rw [performAll_eq]
  exact keeps_foldl_add _

theorem noEmptyGroup_performAll (calls : List Call) : NoEmptyGroup (performAll calls) := by
  rw [performAll_eq]
  induction historyOf calls using List.reverseRecOn with
  | nil => exact noEmptyGroup_empty
  | append_singleton history r ih =>
    rw [List.foldl_append]
    exact noEmptyGroup_add ih r

/-- After any calls a set lists the columns of their history, each once: the tables in the order in
which they first came, and their columns in the order in which they first came. A column has the
target that was registered last, and registering it again leaves it in its place. The numbers that
the set answers are those of the distinct columns and tables, no group is empty, and the set is
empty when nothing was registered. -/
theorem listed_history (calls : List Call) :
    (performAll calls).toList.map Relation.source = sourcesOf (historyOf calls) ∧
    ((performAll calls).toList.map Relation.source).Nodup ∧
    (∀ r, r ∈ (performAll calls).toList ↔ Latest (historyOf calls) r) ∧
    (∀ r, r.source ∈ (historyOf calls).map Relation.source →
      (performAll (calls ++ [.add r])).toList =
        (performAll calls).toList.map fun s => if s.source = r.source then r else s) ∧
    (performAll calls).size = ((historyOf calls).map Relation.source).toFinset.card ∧
    (performAll calls).tableCount = ((historyOf calls).map (·.table)).toFinset.card ∧
    (∀ group ∈ (performAll calls).groups.entries, group.2.entries ≠ []) ∧
    ((performAll calls).isEmpty ↔ historyOf calls = []) := by
  have hkeeps := keeps_performAll calls
  have hsources := hkeeps.map_source
  have hnodup : ((performAll calls).toList.map Relation.source).Nodup :=
    hsources ▸ Relation.nodup_sourcesOf _
  refine ⟨hsources, hnodup, hkeeps.mem_toList_iff, fun r hagain => ?_, ?_, ?_,
    noEmptyGroup_performAll calls, ?_⟩
  · rw [← hkeeps.toList_add_again hagain, performAll, List.foldl_append]
    rfl
  · -- As many relations are listed as there are columns in the list, and these are all distinct.
    rw [size_eq_length, ← List.length_map Relation.source, ← List.toFinset_card_of_nodup hnodup,
      hsources]
    congr 1
    ext pair
    rw [List.mem_toFinset, List.mem_toFinset, Relation.mem_sourcesOf_iff]
  · have hlength : (performAll calls).tableCount = (performAll calls).groups.keys.length :=
      (List.length_map _).symm
    rw [hlength, hkeeps.tables, FirstAppearances.length_eraseDups]
  · have hkeys : (performAll calls).isEmpty ↔ (performAll calls).groups.keys = [] := by
      rw [isEmpty, List.isEmpty_iff, Keyed.keys, List.map_eq_nil_iff]
    rw [hkeys, hkeeps.tables, FirstAppearances.eraseDups_eq_nil_iff, List.map_eq_nil_iff]

/-- Calls that come back to a table, and there to a column. -/
def revisitingCalls : List Call := [
  .add ⟨"posts", "user_id", "users", "id"⟩,
  .add ⟨"comments", "post_id", "posts", "id"⟩,
  .addTable { id := .number 1, name := "posts" }
    [.foreign "category_id" "categories" "id", .foreign "user_id" "accounts" "id"]]

/-- The table and the column stand where they came first, with the target that came last. -/
theorem listed_history_revisitingCalls :
    (performAll revisitingCalls).toList.map Relation.source =
      [("posts", "user_id"), ("posts", "category_id"), ("comments", "post_id")] ∧
    ⟨"posts", "user_id", "accounts", "id"⟩ ∈ (performAll revisitingCalls).toList ∧
    (performAll revisitingCalls).size = 3 ∧
    ("posts", "user_id") ∈ (historyOf revisitingCalls).map Relation.source ∧
    (performAll (revisitingCalls ++ [.add ⟨"posts", "user_id", "people", "id"⟩])).toList =
      [⟨"posts", "user_id", "people", "id"⟩, ⟨"posts", "category_id", "categories", "id"⟩,
        ⟨"comments", "post_id", "posts", "id"⟩] := by
  obtain ⟨hsources, -, hlatest, hagain, hsize, -, -, -⟩ := listed_history revisitingCalls
  have hmem : ("posts", "user_id") ∈ (historyOf revisitingCalls).map Relation.source := by decide
  refine ⟨?_, (hlatest _).2 ⟨(historyOf revisitingCalls).take 3, [], rfl, by simp⟩, ?_, hmem, ?_⟩
  · rw [hsources]
    decide
  · rw [hsize]
    decide
  · rw [hagain ⟨"posts", "user_id", "people", "id"⟩ hmem]
    decide

end RelationSet

end SchemaMigration
