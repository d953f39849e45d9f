import SchemaMigration.Proofs.Migration.DropStatements
import SchemaMigration.Proofs.Migration.RelationReading

/-!
# `SchemaMigration.Proofs.Migration.MirroredSides`: the two sides of a relations migration

Both sides are written from the same rows (`rowsOf`): the table of a group, its relations one
after the other, and the end of the group. A row has a line on the side that adds constraints
(`Row.applied`) and one on the side that drops them (`Row.reverted`). The lines of a group's table
and end are the same on both sides, and wrap the statements of the group.

What the names are does not matter. They are quoted, and a line is told by what stands in front of
them. So a reader of the side that adds constraints, who knows of a table only by the line that
opened its group, finds the rows again (`readRows_map_applied`).

`mirrored_sides` says this of any set that is not empty.
-/

set_option autoImplicit false

namespace SchemaMigration.RelationBlocks

open SchemaMigration.Text (dropPrefix?_append)

/-! ### Rows -/

/-- What stands at one position of both sides. -/
inductive Row where
  | opening (table : String)
  | statement (r : Relation)
  | closing
  deriving DecidableEq, Repr

namespace Row

/-- The line on the side that adds constraints. -/
def applied : Row → String
  | .opening table => openLine table
  | .statement r => lineOf r
  | .closing => closeLine

/-- The line on the side that drops constraints. -/
def reverted : Row → String
  | .opening table => openLine table
  | .statement r => dropLine r.table r.column
  | .closing => closeLine

/-- The relation that a row is about. -/
def relation? : Row → Option Relation
  | .statement r => some r
  | _ => none

/-- Rows in groups, after the opening of a group when its table is given. A relation stands in the
group of its table. -/
def Grouped : Option String → List Row → Prop
  | none, [] => True
  | none, .opening table :: rest => Grouped (some table) rest
  | some table, .statement r :: rest => r.table = table ∧ Grouped (some table) rest
  | some _, .closing :: rest => Grouped none rest
  | _, _ => False

end Row

/-- The rows of the relations of a table. -/
def statementsOf (table : String) (group : Keyed RelationTarget) : List Row :=
  group.entries.map fun (column, target) =>
    .statement ⟨table, column, target.table, target.column⟩

/-- The rows of groups. -/
def rowsOf (groups : List (String × Keyed RelationTarget)) : List Row :=
  groups.flatMap fun (table, group) => .opening table :: (statementsOf table group ++ [.closing])

theorem rowsOf_cons (table : String) (group : Keyed RelationTarget)
    (groups : List (String × Keyed RelationTarget)) :
    rowsOf ((table, group) :: groups) =
      .opening table :: (statementsOf table group ++ .closing :: rowsOf groups) := by
  simp [rowsOf]

theorem map_applied_rowsOf (groups : List (String × Keyed RelationTarget)) :
    (rowsOf groups).map Row.applied = applyLines groups := by
  rw [rowsOf, applyLines, List.map_flatMap]
  refine List.flatMap_congr fun entry _ => ?_
  simp [statementsOf, addLines, Row.applied, lineOf]

theorem map_reverted_rowsOf (groups : List (String × Keyed RelationTarget)) :
    (rowsOf groups).map Row.reverted = revertLines groups := by
  rw [rowsOf, revertLines, List.map_flatMap]
  refine List.flatMap_congr fun entry _ => ?_
  simp [statementsOf, dropLines, Row.reverted]

theorem filterMap_relation_statementsOf (table : String) (group : Keyed RelationTarget) :
    (statementsOf table group).filterMap Row.relation? = group.entries.map fun (column, target) =>
      ⟨table, column, target.table, target.column⟩ := by
  rw [statementsOf, List.filterMap_map, ← List.filterMap_eq_map]
  rfl

/-- The relations of the rows are those of the set, in order. -/
theorem filterMap_relation_rowsOf (set : RelationSet) :
    (rowsOf set.groups.entries).filterMap Row.relation? = set.toList := by
  rw [rowsOf, List.filterMap_flatMap, RelationSet.toList]
  refine List.flatMap_congr fun entry _ => ?_
  rw [List.filterMap_cons_none rfl, List.filterMap_append, filterMap_relation_statementsOf,
    List.filterMap_cons_none rfl, List.filterMap_nil, List.append_nil]

/-- There is a row for each relation, and two for each group. -/
theorem length_rowsOf (set : RelationSet) :
    (rowsOf set.groups.entries).length = set.size + 2 * set.tableCount := by
  rw [RelationSet.size_eq_length, RelationSet.toList, RelationSet.tableCount, Keyed.size]
  induction set.groups.entries with
  | nil => rfl
  | cons entry rest ih =>
    obtain ⟨table, group⟩ := entry
    rw [rowsOf_cons, List.flatMap_cons]
    simp only [statementsOf, List.length_cons, List.length_append, List.length_map, ih]
    omega

/-- The statements of a group stand behind its opening. -/
theorem grouped_statementsOf (table : String) (group : Keyed RelationTarget) {rest : List Row}
    (h : Row.Grouped none rest) :
    Row.Grouped (some table) (statementsOf table group ++ .closing :: rest) := by
  unfold statementsOf
  induction group.entries with
  | nil => exact h
  | cons entry entries ih => exact ⟨rfl, ih⟩

theorem grouped_rowsOf (groups : List (String × Keyed RelationTarget)) :
    Row.Grouped none (rowsOf groups) := by
  induction groups with
  | nil => trivial
  | cons entry rest ih =>
    rw [rowsOf_cons]
    exact grouped_statementsOf entry.1 entry.2 ih

/-! ### Reading the side that adds constraints -/

/-- What stands in front of the column of a statement that adds a constraint. -/
def addOpening : String :=
  statementIndent ++ "$table->foreign("

/-- Reads the column and what it refers to off a statement that adds a constraint. -/
def readAdd (line : String) : Option (String × RelationTarget) := do
  let text ← line.toList.dropPrefix? addOpening.toList
  let (entry, behind) ← readEntry text
  if behind = [] then some entry else none

theorem readAdd_addLine (column : String) (target : RelationTarget) :
    readAdd (addLine column target) = some (column, target) := by
  have hline : (addLine column target).toList =
      addOpening.toList ++ ((entryText (column, target)).toList ++ []) := by
    simp [addLine, addOpening, entryText]
  simp only [readAdd, hline, dropPrefix?_append, readEntry_append, Option.bind_eq_bind,
    Option.bind_some, if_true]

/-- Reads rows off the side that adds constraints. When a group is open its table is given. A
statement is about the table of the group that it stands in. -/
def readRows : Option String → List String → Option (List Row)
  | none, [] => some []
  | some _, [] => none
  | none, line :: rest => do
    let table ← readOpening line
    return .opening table :: (← readRows (some table) rest)
  | some table, line :: rest =>
    if line = closeLine then do return .closing :: (← readRows none rest)
    else do
      let (column, target) ← readAdd line
      return .statement ⟨table, column, target.table, target.column⟩ ::
        (← readRows (some table) rest)

/-- Rows in groups are read back. -/
theorem readRows_map_applied {opened : Option String} {rows : List Row}
    (h : Row.Grouped opened rows) : readRows opened (rows.map Row.applied) = some rows := by
  -- Which rows may come first depends on whether a group is open, as for the reader.
  induction rows generalizing opened with
  | nil =>
    cases opened with
    | none => rfl
    | some table => exact h.elim
  | cons row rest ih =>
    cases opened with
    | none =>
      cases row with
      | opening table =>
        rw [List.map_cons, Row.applied, readRows, readOpening_openLine, Option.bind_eq_bind,
          Option.bind_some, ih h]
        rfl
      | statement r => exact h.elim
      | closing => exact h.elim
    | some table =>
      cases row with
      | opening other => exact h.elim
      | statement r =>
        obtain ⟨rfl, hrest⟩ := h
        rw [List.map_cons, Row.applied, lineOf, readRows, if_neg (addLine_ne_closeLine _ _),
          readAdd_addLine, Option.bind_eq_bind, Option.bind_some, ih hrest]
        rfl
      | closing =>
        rw [List.map_cons, Row.applied, readRows, if_pos rfl, ih h]
        rfl

/-- What is read off the side that adds constraints is what it was written from. -/
theorem readRows_apply {set : RelationSet} {blocks : RelationBlocks}
    (h : ofSet? set = some blocks) :
    readRows none blocks.apply = some (rowsOf set.groups.entries) := by
  rw [apply_of_ofSet? h, ← map_applied_rowsOf, readRows_map_applied (grouped_rowsOf _)]

/-! ### The two sides -/

/-- A line that opens or closes a group. -/
def WrapsGroup (line : String) : Prop :=
  line = closeLine ∨ ∃ table, line = openLine table

theorem dropLine_ne_openLine (table column other : String) :
    dropLine table column ≠ openLine other := by
  have hmark : kindMark (dropLine table column) = some ' ' := by
    simp [kindMark, dropLine, statementIndent, String.toList_append]
  refine ne_of_apply_ne kindMark ?_
  rw [hmark, kindMark_openLine]
  decide

/-- A line that wraps a group has the same row on both sides. -/
theorem WrapsGroup.applied_eq_iff {line : String} (h : WrapsGroup line) (row : Row) :
    row.applied = line ↔ row.reverted = line := by
  cases row with
  | opening table => exact Iff.rfl
  | closing => exact Iff.rfl
  | statement r =>
    obtain rfl | ⟨table, rfl⟩ := h
    · exact iff_of_false (addLine_ne_closeLine _ _) (dropLine_ne_closeLine _ _)
    · exact iff_of_false (addLine_ne_openLine _ _ _) (dropLine_ne_openLine _ _ _)

/-- The sides of a set that is not empty have the same number of lines: one for each relation, and
two for each table. The lines that wrap groups are the same at the same places. What is read off the
side that adds constraints is the relations in order, each in the group of its table. Where the
statement of a relation stands there, the other side drops the constraint of this name. -/
theorem mirrored_sides {set : RelationSet} (h : set.isEmpty = false) :
    ∃ (blocks : RelationBlocks) (rows : List Row),
      ofSet? set = some blocks ∧
      blocks.apply.length = set.size + 2 * set.tableCount ∧
      blocks.revert.length = blocks.apply.length ∧
      (∀ (i : Nat) (line : String), WrapsGroup line →
        (blocks.apply[i]? = some line ↔ blocks.revert[i]? = some line)) ∧
      readRows none blocks.apply = some rows ∧
      rows.filterMap Row.relation? = set.toList ∧
      Row.Grouped none rows ∧
      rows.length = blocks.apply.length ∧
      ∀ (i : Nat) (r : Relation), rows[i]? = some (.statement r) →
        blocks.apply[i]? = some (lineOf r) ∧
        blocks.revert[i]? = some (dropLine r.table r.column) ∧
        readDrop (dropLine r.table r.column) = some (r.table ++ "_" ++ r.column ++ "_foreign") := by
  obtain ⟨blocks, hblocks⟩ : ∃ blocks, ofSet? set = some blocks :=
    ⟨_, by rw [ofSet?, if_neg (by simp [h])]⟩
  have happly : blocks.apply = (rowsOf set.groups.entries).map Row.applied := by
    rw [apply_of_ofSet? hblocks, map_applied_rowsOf]
  have hrevert : blocks.revert = (rowsOf set.groups.entries).map Row.reverted := by
    rw [revert_of_ofSet? hblocks, map_reverted_rowsOf]
  have hlength : (rowsOf set.groups.entries).length = blocks.apply.length := by
    rw [happly, List.length_map]
  refine ⟨blocks, rowsOf set.groups.entries, hblocks, ?length, ?same_length, ?wraps,
    readRows_apply hblocks, filterMap_relation_rowsOf set, grouped_rowsOf _, hlength, ?statement⟩
  case length => rw [← hlength, length_rowsOf]
  case same_length => rw [happly, hrevert, List.length_map, List.length_map]
  case wraps =>
    -- Both sides have the line of the same row there.
    intro i line hwraps
    rw [happly, hrevert, List.getElem?_map, List.getElem?_map]
    simp only [Option.map_eq_some_iff, hwraps.applied_eq_iff]
  case statement =>
    intro i r hrow
    refine ⟨?_, ?_, readDrop_dropLine ..⟩
    · rw [happly, List.getElem?_map, hrow]
      rfl
    · rw [hrevert, List.getElem?_map, hrow]
      rfl

/-- Two tables with a column of one name, and names that look like the lines around them. -/
def lookalikes : RelationSet :=
  [⟨"it's", "', function (Blueprint $table) \x7b", "a\\", "\\'"⟩,
    ⟨"\n        \x7d);", "owner_id", "owners", "id"⟩,
    ⟨"it's", "owner_id", "owners", "id"⟩].foldl RelationSet.add .empty

/-- What stands in the migration of these. -/
def lookalikeRows : List Row :=
  [.opening "it's",
    .statement ⟨"it's", "', function (Blueprint $table) \x7b", "a\\", "\\'"⟩,
    .statement ⟨"it's", "owner_id", "owners", "id"⟩,
    .closing,
    .opening "\n        \x7d);",
    .statement ⟨"\n        \x7d);", "owner_id", "owners", "id"⟩,
    .closing]

theorem mirrored_sides_lookalikes : lookalikes.isEmpty = false ∧
    ∃ blocks, ofSet? lookalikes = some blocks ∧
      blocks.apply.length = 7 ∧ blocks.revert.length = 7 ∧
      readRows none blocks.apply = some lookalikeRows ∧
      blocks.revert[2]? = some (dropLine "it's" "owner_id") ∧
      readDrop (dropLine "it's" "owner_id") = some "it's_owner_id_foreign" := by
  have hsome : lookalikes.isEmpty = false := by decide
  obtain ⟨blocks, rows, hblocks, hlength, hsame, -, hread, -, -, -, hstatement⟩ :=
    mirrored_sides hsome
  -- The rows of the theorem are what is read, so reading tells which they are.
  have hwritten : rowsOf lookalikes.groups.entries = lookalikeRows := by decide +kernel
  obtain rfl : rows = lookalikeRows :=
    Option.some.inj (hread.symm.trans ((readRows_apply hblocks).trans (congrArg some hwritten)))
  exact ⟨hsome, blocks, hblocks, hlength, hsame.trans hlength, hread, (hstatement 2 _ rfl).2⟩

end SchemaMigration.RelationBlocks
