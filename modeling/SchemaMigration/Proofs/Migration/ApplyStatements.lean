import SchemaMigration.Proofs.Migration.RelationView
import SchemaMigration.Proofs.Text.Literal

/-!
# `SchemaMigration.Proofs.Migration.ApplyStatements`: the statements that add foreign keys

The side of a relations migration that adds constraints is a list of lines. A statement
names the column it is about, the table and the column it refers to. The table that it
belongs to is named by the line that opens its group. `Applies` reads the four names off
the lines: the group is still open when the statement comes.

The names are quoted, so a line names them without doubt (`openLine_inj`,
`addLine_inj`), and the three kinds of lines differ. So the statements are the relations
of the set that the lines were made of, no more and no fewer (`applies_iff`).
-/

set_option autoImplicit false

namespace SchemaMigration.RelationBlocks

/-! ### Lines -/

/-- Where the kinds of lines differ: the character behind the indentation of a group. -/
def kindMark (line : String) : Option Char :=
  line.toList[8]?

theorem kindMark_openLine (table : String) : kindMark (openLine table) = some 'S' := by
  simp [kindMark, openLine, groupIndent, String.toList_append]

theorem kindMark_closeLine : kindMark closeLine = some '\x7d' := by
  decide

theorem kindMark_addLine (column : String) (target : RelationTarget) :
    kindMark (addLine column target) = some ' ' := by
  simp [kindMark, addLine, statementIndent, String.toList_append]

theorem openLine_ne_closeLine (table : String) : openLine table ≠ closeLine := by
  refine ne_of_apply_ne kindMark ?_
  rw [kindMark_openLine, kindMark_closeLine]
  decide

theorem addLine_ne_closeLine (column : String) (target : RelationTarget) :
    addLine column target ≠ closeLine := by
  refine ne_of_apply_ne kindMark ?_
  rw [kindMark_addLine, kindMark_closeLine]
  decide

theorem addLine_ne_openLine (column : String) (target : RelationTarget) (table : String) :
    addLine column target ≠ openLine table := by
  refine ne_of_apply_ne kindMark ?_
  rw [kindMark_addLine, kindMark_openLine]
  decide

/-- The line that opens a group names the table. -/
theorem openLine_inj {table other : String} (h : openLine table = openLine other) :
    table = other := by
  simp only [openLine, String.append_assoc, String.append_right_inj] at h
  exact (Text.quoted_append_inj h).1

/-- The line that adds a constraint names the column and what it refers to. -/
theorem addLine_inj {column column' : String} {target target' : RelationTarget}
    (h : addLine column target = addLine column' target') :
    column = column' ∧ target = target' := by
  simp only [addLine, String.append_assoc, String.append_right_inj] at h
  obtain ⟨hcolumn, h⟩ := Text.quoted_append_inj h
  rw [String.append_right_inj] at h
  obtain ⟨hreferences, h⟩ := Text.quoted_append_inj h
  rw [String.append_right_inj] at h
  obtain ⟨hon, -⟩ := Text.quoted_append_inj h
  cases target
  cases target'
  exact ⟨hcolumn, congr (congrArg RelationTarget.mk hon) hreferences⟩

/-! ### Statements -/

open RelationSet (entryOf)

/-- The line that adds a relation. -/
def lineOf (r : Relation) : String :=
  addLine r.column ⟨r.targetTable, r.targetColumn⟩

/-- Among the lines there is a statement that adds the relation: the group of its table has been
opened and is not closed yet. -/
def Applies (lines : List String) (r : Relation) : Prop :=
  ∃ front between back,
    lines = front ++ openLine r.table :: (between ++ lineOf r :: back) ∧ closeLine ∉ between

/-- The lines that add the relations of a group. -/
def addLines (group : Keyed RelationTarget) : List String :=
  group.entries.map fun (column, target) => addLine column target

/-- The lines of groups that add relations. -/
def applyLines (groups : List (String × Keyed RelationTarget)) : List String :=
  groups.flatMap fun (table, group) => openLine table :: (addLines group ++ [closeLine])

theorem apply_of_ofSet? {set : RelationSet} {blocks : RelationBlocks}
    (h : ofSet? set = some blocks) : blocks.apply = applyLines set.groups.entries := by
  rw [eq_of_ofSet? h]
  rfl

theorem closeLine_not_mem_addLines (group : Keyed RelationTarget) :
    closeLine ∉ addLines group := by
  intro hmem
  obtain ⟨entry, -, heq⟩ := List.mem_map.1 hmem
  exact addLine_ne_closeLine _ _ heq

theorem openLine_not_mem_addLines (table : String) (group : Keyed RelationTarget) :
    openLine table ∉ addLines group := by
  intro hmem
  obtain ⟨entry, -, heq⟩ := List.mem_map.1 hmem
  exact addLine_ne_openLine _ _ _ heq

theorem lineOf_mem_addLines_iff {r : Relation} {group : Keyed RelationTarget} :
    lineOf r ∈ addLines group ↔ entryOf r ∈ group.entries := by
  constructor
  · intro hmem
    obtain ⟨⟨column, target⟩, hentry, heq⟩ := List.mem_map.1 hmem
    obtain ⟨rfl, rfl⟩ := addLine_inj heq
    exact hentry
  · exact fun hentry => List.mem_map.2 ⟨entryOf r, hentry, rfl⟩

/-- A statement before the first line that closes a group is one of that group. -/
theorem lineOf_mem_of_append {group : Keyed RelationTarget} {r : Relation}
    {rest between back : List String}
    (h : addLines group ++ closeLine :: rest = between ++ lineOf r :: back)
    (hopen : closeLine ∉ between) : lineOf r ∈ addLines group := by
  rcases List.append_eq_append_iff.1 h with ⟨more, rfl, hmore⟩ | ⟨more, hgroup, hmore⟩
  · -- The statement would stand behind the end of the group.
    cases more with
    | nil => exact absurd (List.head_eq_of_cons_eq hmore).symm (addLine_ne_closeLine _ _)
    | cons line more =>
      obtain rfl := List.head_eq_of_cons_eq hmore
      exact absurd (by simp) hopen
  · cases more with
    | nil => exact absurd (List.head_eq_of_cons_eq hmore) (addLine_ne_closeLine _ _)
    | cons line more =>
      obtain rfl := List.head_eq_of_cons_eq hmore
      rw [hgroup]
      simp

/-- Within a group no line opens another, so what opens one stands behind the group. -/
theorem exists_behind_group {group : Keyed RelationTarget} {table : String}
    {rest front back : List String}
    (h : addLines group ++ closeLine :: rest = front ++ openLine table :: back) :
    ∃ behind, rest = behind ++ openLine table :: back := by
  rcases List.append_eq_append_iff.1 h with ⟨more, -, hmore⟩ | ⟨more, hgroup, hmore⟩
  · cases more with
    | nil => exact absurd (List.head_eq_of_cons_eq hmore).symm (openLine_ne_closeLine _)
    | cons line more => exact ⟨more, List.tail_eq_of_cons_eq hmore⟩
  · cases more with
    | nil => exact absurd (List.head_eq_of_cons_eq hmore) (openLine_ne_closeLine _)
    | cons line more =>
      obtain rfl := List.head_eq_of_cons_eq hmore
      exact absurd (hgroup ▸ by simp) (openLine_not_mem_addLines table group)

/-- A statement in the lines of groups is one of the group that its table names. -/
theorem exists_group_of_applyLines {groups : List (String × Keyed RelationTarget)} {r : Relation}
    {front between back : List String}
    (h : applyLines groups = front ++ openLine r.table :: (between ++ lineOf r :: back))
    (hopen : closeLine ∉ between) :
    ∃ group, (r.table, group) ∈ groups ∧ entryOf r ∈ group.entries := by
  induction groups generalizing front with
  | nil => simp [applyLines] at h
  | cons first rest ih =>
    obtain ⟨table, group⟩ := first
    have hlines : applyLines ((table, group) :: rest) =
        openLine table :: (addLines group ++ closeLine :: applyLines rest) := by
      simp [applyLines]
    rw [hlines] at h
    cases front with
    | nil =>
      -- The group of the statement is the first one.
      rw [List.nil_append, List.cons.injEq] at h
      obtain rfl := openLine_inj h.1
      exact ⟨group, List.mem_cons_self,
        lineOf_mem_addLines_iff.1 (lineOf_mem_of_append h.2 hopen)⟩
    | cons line front =>
      rw [List.cons_append, List.cons.injEq] at h
      obtain ⟨behind, hbehind⟩ := exists_behind_group h.2
      obtain ⟨found, hfound, hentry⟩ := ih hbehind
      exact ⟨found, List.mem_cons_of_mem _ hfound, hentry⟩

/-- Every relation of a group has a statement in its lines. -/
theorem applies_of_mem {groups : List (String × Keyed RelationTarget)} {r : Relation}
    {group : Keyed RelationTarget} (hgroup : (r.table, group) ∈ groups)
    (hentry : entryOf r ∈ group.entries) : Applies (applyLines groups) r := by
  obtain ⟨before, after, rfl⟩ := List.append_of_mem hgroup
  obtain ⟨between, back, hlines⟩ := List.append_of_mem (lineOf_mem_addLines_iff.2 hentry)
  refine ⟨applyLines before, between, back ++ closeLine :: applyLines after, ?_, ?_⟩
  · simp [applyLines, hlines]
  · intro hmem
    exact closeLine_not_mem_addLines group (hlines ▸ List.mem_append_left _ hmem)

/-- The statements that a set becomes are its relations. -/
theorem applies_iff {set : RelationSet} {blocks : RelationBlocks}
    (h : ofSet? set = some blocks) (r : Relation) :
    Applies blocks.apply r ↔ r ∈ set.toList := by
  rw [apply_of_ofSet? h, RelationSet.mem_toList_iff]
  constructor
  · rintro ⟨front, between, back, hlines, hopen⟩
    exact exists_group_of_applyLines hlines hopen
  · rintro ⟨group, hgroup, hentry⟩
    exact applies_of_mem hgroup hentry

end SchemaMigration.RelationBlocks
