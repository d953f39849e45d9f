import SchemaMigration.Proofs.Migration.RelationView
import SchemaMigration.Proofs.Text.FrontReading

/-!
# `SchemaMigration.Proofs.Migration.DropStatements`: the statements that drop foreign keys

The side of a relations migration that drops constraints is a list of lines in groups. The
line that opens a group names a table, and every statement up to the end of the group names
a constraint of this table. `readDrops` goes through the lines and refuses any others. It
finds one statement for each relation, in order (`readDrops_revert`).

A constraint is named by its table and its column with an underscore between them. Both may
have underscores of their own, so the name does not tell where the table ends. Two relations
get one name when the table of the second is the table of the first and a piece of its
column (`constraint_eq_iff`). Within one table the names differ, since the columns do.
-/

set_option autoImplicit false

namespace SchemaMigration

open SchemaMigration.Text (readQuoted readQuoted_append dropPrefix?_append)

/-! ### Names of constraints -/

namespace Relation

/-- The name of the constraint that a relation becomes. -/
def constraint (r : Relation) : String :=
  constraintName r.table r.column

/-- Two relations whose name can be cut at two places: the table of the second is the table of the
first and a piece of its column, and the rest of this column is the column of the second. So
`group_owner_id` of `user` clashes with `owner_id` of `user_group`. -/
def Clash (r s : Relation) : Prop :=
  ∃ piece, s.table = r.table ++ "_" ++ piece ∧ r.column = piece ++ "_" ++ s.column

/-- The table of a relation and the name of its constraint. -/
def drop (r : Relation) : String × String :=
  (r.table, r.constraint)

/-- Relations that clash are of different tables. -/
theorem Clash.table_ne {r s : Relation} (h : r.Clash s) : r.table ≠ s.table := by
  obtain ⟨piece, htable, -⟩ := h
  intro heq
  have hlength := congrArg String.length (heq.trans htable)
  simp only [String.length_append] at hlength
  have : "_".length = 1 := rfl
  omega

/-- A text that goes on behind an underscore ends there, or it has another underscore. -/
theorem eq_or_exists_piece {front back front' back' : String} {more : List Char}
    (hfront : front'.toList = front.toList ++ more)
    (hback : '_' :: back.toList = more ++ '_' :: back'.toList) :
    (front = front' ∧ back = back') ∨
      ∃ piece, front' = front ++ "_" ++ piece ∧ back = piece ++ "_" ++ back' := by
  have hmark : "_".toList = ['_'] := rfl
  -- What `front'` has more than `front` is nothing, or it begins with the mark.
  cases more with
  | nil =>
    rw [List.append_nil] at hfront
    rw [List.nil_append, List.cons.injEq] at hback
    exact .inl ⟨(String.toList_inj.1 hfront).symm, String.toList_inj.1 hback.2⟩
  | cons c more =>
    rw [List.cons_append, List.cons.injEq] at hback
    obtain ⟨rfl, hback⟩ := hback
    refine .inr ⟨String.ofList more, ?_, ?_⟩
    · rw [← String.toList_inj]
      simpa [hmark] using hfront
    · rw [← String.toList_inj]
      simpa [hmark] using hback

/-- Texts with an underscore between them make one text when they are the same, or when the
underscore of one is a later one of the other. -/
theorem join_eq_iff {front back front' back' : String} :
    front ++ "_" ++ back = front' ++ "_" ++ back' ↔
      (front = front' ∧ back = back') ∨
      (∃ piece, front' = front ++ "_" ++ piece ∧ back = piece ++ "_" ++ back') ∨
      ∃ piece, front = front' ++ "_" ++ piece ∧ back' = piece ++ "_" ++ back := by
  have hmark : "_".toList = ['_'] := rfl
  constructor
  · intro h
    have hlist := congrArg String.toList h
    simp only [String.toList_append, hmark, List.append_assoc, List.singleton_append] at hlist
    -- One of the two fronts is the beginning of the other.
    rcases List.append_eq_append_iff.1 hlist with ⟨more, hfront, hback⟩ | ⟨more, hfront, hback⟩
    · exact (eq_or_exists_piece hfront hback).imp_right .inl
    · exact (eq_or_exists_piece hfront hback).imp (fun ⟨h, h'⟩ => ⟨h.symm, h'.symm⟩) .inr
  · rintro (⟨rfl, rfl⟩ | ⟨piece, rfl, rfl⟩ | ⟨piece, rfl, rfl⟩)
    · rfl
    · simp only [String.append_assoc]
    · simp only [String.append_assoc]

/-- The relations whose constraints get one name. -/
theorem constraint_eq_iff {r s : Relation} :
    r.constraint = s.constraint ↔
      (r.table = s.table ∧ r.column = s.column) ∨ r.Clash s ∨ s.Clash r := by
  rw [constraint, constraint, constraintName, constraintName, String.append_left_inj, join_eq_iff]
  rfl

end Relation

namespace RelationBlocks

/-! ### Reading -/

/-- Reads a line that consists of a quoted text between an opening and a closing. -/
def readLine (opening closing line : String) : Option String := do
  let text ← line.toList.dropPrefix? opening.toList
  let (name, behind) ← readQuoted text
  if behind = closing.toList then some name else none

/-- Reads the table off a line that opens a group. -/
def readOpening : String → Option String :=
  readLine (groupIndent ++ "Schema::table(") ", function (Blueprint $table) \x7b"

/-- Reads the name off a statement that drops a constraint. -/
def readDrop : String → Option String :=
  readLine (statementIndent ++ "$table->dropForeign(") ");"

/-- Reads statements that drop constraints, in groups. When a group is open its table is given.
The result is the names, each with the table of its group. -/
def readDrops : Option String → List String → Option (List (String × String))
  | none, [] => some []
  | some _, [] => none
  | none, line :: rest => do readDrops (some (← readOpening line)) rest
  | some table, line :: rest =>
    if line = closeLine then readDrops none rest
    else do return (table, ← readDrop line) :: (← readDrops (some table) rest)

theorem readLine_append (opening closing name : String) :
    readLine opening closing (opening ++ Text.quoted name ++ closing) = some name := by
  rw [readLine, String.toList_append, String.toList_append, List.append_assoc, dropPrefix?_append]
  simp only [readQuoted_append, Option.bind_eq_bind, Option.bind_some, if_true]

theorem readOpening_openLine (table : String) : readOpening (openLine table) = some table :=
  readLine_append ..

theorem readDrop_dropLine (table column : String) :
    readDrop (dropLine table column) = some (constraintName table column) :=
  readLine_append ..

theorem dropLine_ne_closeLine (table column : String) : dropLine table column ≠ closeLine := by
  intro h
  have hread := readDrop_dropLine table column
  have hnone : readDrop closeLine = none := by decide
  rw [h, hnone] at hread
  cases hread

/-- The lines that drop the constraints of a table. -/
def dropLines (table : String) (group : Keyed RelationTarget) : List String :=
  group.entries.map fun (column, _) => dropLine table column

/-- The lines of groups that drop constraints. -/
def revertLines (groups : List (String × Keyed RelationTarget)) : List String :=
  groups.flatMap fun (table, group) => openLine table :: (dropLines table group ++ [closeLine])

theorem revert_of_ofSet? {set : RelationSet} {blocks : RelationBlocks}
    (h : ofSet? set = some blocks) : blocks.revert = revertLines set.groups.entries := by
  rw [eq_of_ofSet? h]
  rfl

/-- What drops the constraints of a group: its table, and a name for each of its columns. -/
def dropsOf (table : String) (group : Keyed RelationTarget) : List (String × String) :=
  group.entries.map fun (column, _) => (table, constraintName table column)

/-- The statements of a group are read up to the line that closes it. -/
theorem readDrops_dropLines (table : String) (group : Keyed RelationTarget) (rest : List String) :
    readDrops (some table) (dropLines table group ++ closeLine :: rest) =
      (readDrops none rest).map (dropsOf table group ++ ·) := by
  unfold dropLines dropsOf
  induction group.entries with
  | nil =>
    rw [List.map_nil, List.nil_append, readDrops, if_pos rfl]
    simp
  | cons entry entries ih =>
    rw [List.map_cons, List.cons_append, readDrops, if_neg (dropLine_ne_closeLine table entry.1),
      readDrop_dropLine, ih]
    cases readDrops none rest <;> rfl

theorem readDrops_revertLines (groups : List (String × Keyed RelationTarget)) :
    readDrops none (revertLines groups) =
      some (groups.flatMap fun (table, group) => dropsOf table group) := by
  induction groups with
  | nil => rfl
  | cons first rest ih =>
    obtain ⟨table, group⟩ := first
    have hlines : revertLines ((table, group) :: rest) =
        openLine table :: (dropLines table group ++ closeLine :: revertLines rest) := by
      simp [revertLines]
    rw [hlines, readDrops, readOpening_openLine, Option.bind_eq_bind, Option.bind_some,
      readDrops_dropLines, ih, Option.map_some, List.flatMap_cons]

/-- The side that drops constraints has one statement for each relation, in order. -/
theorem readDrops_revert {set : RelationSet} {blocks : RelationBlocks}
    (h : ofSet? set = some blocks) :
    readDrops none blocks.revert = some (set.toList.map Relation.drop) := by
  rw [revert_of_ofSet? h, readDrops_revertLines, RelationSet.toList, List.map_flatMap]
  simp only [List.map_map]
  rfl

end RelationBlocks

end SchemaMigration
