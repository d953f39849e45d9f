import SchemaMigration.Proofs.Migration.ApplyStatements
import SchemaMigration.Proofs.Migration.Rendering
import SchemaMigration.Proofs.Text.FrontReading

/-!
# `SchemaMigration.Proofs.Migration.RelationReading`: what the migration of relations says

The migration of relations adds a constraint with each of its statements. The statements stand
in groups, and the line that opens a group names their table. `Assembler.readRelations` reads
the relations off the whole text of the file, up to the method that reverses the migration.

As in the migration of a table, line breaks are no help to a reader, for a name may have some. A
statement ends where it says so, and so does a group. Behind a statement stands another one or
the end of its group, and behind a group another one or the end of the method. Their marks
disagree after the indentation.
-/

set_option autoImplicit false

namespace SchemaMigration

open SchemaMigration.Text (StartsWith dropPrefix?_append dropPrefix?_eq_none readMany
  readMany_append readQuoted readQuoted_append startsWith_append)

namespace RelationBlocks

/-- What stands in front of the column of a statement. -/
def statementOpening : String :=
  "\n" ++ statementIndent ++ "$table->foreign("

/-- What stands in front of the table of a group. -/
def groupOpening : String :=
  "\n" ++ groupIndent ++ "Schema::table("

/-- What stands behind the statements of a group. -/
def groupClosing : String :=
  "\n" ++ closeLine

/-- The text of a statement from its column on. -/
def entryText (entry : String × RelationTarget) : String :=
  Text.quoted entry.1 ++ ")->references(" ++ Text.quoted entry.2.column ++ ")->on(" ++
    Text.quoted entry.2.table ++ ");"

/-- Reads a statement from its column on. -/
def readEntry (text : List Char) : Option ((String × RelationTarget) × List Char) := do
  let (column, text) ← readQuoted text
  let text ← text.dropPrefix? ")->references(".toList
  let (targetColumn, text) ← readQuoted text
  let text ← text.dropPrefix? ")->on(".toList
  let (targetTable, text) ← readQuoted text
  let rest ← text.dropPrefix? ");".toList
  return ((column, ⟨targetTable, targetColumn⟩), rest)

theorem readEntry_append (entry : String × RelationTarget) (rest : List Char) :
    readEntry ((entryText entry).toList ++ rest) = some (entry, rest) := by
  simp only [entryText, String.toList_append, List.append_assoc]
  rw [readEntry, readQuoted_append]
  simp only [Option.bind_eq_bind, Option.bind_some, dropPrefix?_append, readQuoted_append]
  rfl

/-- The text of a group from its table on. -/
def groupText (group : String × List (String × RelationTarget)) : String :=
  Text.quoted group.1 ++ ", function (Blueprint $table) \x7b" ++
    String.join (group.2.map fun entry => statementOpening ++ entryText entry) ++ groupClosing

/-- Reads a group from its table on. -/
def readGroup (text : List Char) :
    Option ((String × List (String × RelationTarget)) × List Char) := do
  let (table, text) ← readQuoted text
  let text ← text.dropPrefix? ", function (Blueprint $table) \x7b".toList
  let (entries, text) ← readMany statementOpening readEntry text
  let rest ← text.dropPrefix? groupClosing.toList
  return ((table, entries), rest)

theorem readGroup_append (group : String × List (String × RelationTarget)) (rest : List Char) :
    readGroup ((groupText group).toList ++ rest) = some (group, rest) := by
  have hclosing : (groupClosing.toList ++ rest).dropPrefix? statementOpening.toList = none :=
    dropPrefix?_eq_none (startsWith_append ..) (by decide)
  have hentries := readMany_append (by decide) group.2
    (fun entry _ behind => readEntry_append entry behind) hclosing
  simp only [groupText, String.toList_append, List.append_assoc, String.toList_join,
    List.flatMap_map]
  rw [readGroup, readQuoted_append]
  simp only [Option.bind_eq_bind, Option.bind_some, dropPrefix?_append, hentries]
  rfl

/-- The groups of a set, as they can be read off a text. -/
def groupsOf (groups : List (String × Keyed RelationTarget)) :
    List (String × List (String × RelationTarget)) :=
  groups.map fun group => (group.1, group.2.entries)

/-- The lines that add the relations of a set, each behind a line break, are its groups. -/
theorem flatMap_applyLines (groups : List (String × Keyed RelationTarget)) :
    (applyLines groups).flatMap (fun line => "\n".toList ++ line.toList) =
      (groupsOf groups).flatMap fun group =>
        groupOpening.toList ++ (groupText group).toList := by
  rw [applyLines, groupsOf, List.flatMap_assoc, List.flatMap_map]
  refine List.flatMap_congr fun group _ => ?_
  simp [addLines, openLine, addLine, groupOpening, groupText, groupClosing, statementOpening,
    entryText, List.flatMap_map, String.toList_join]

end RelationBlocks

namespace Assembler

/-- The text of the migration of relations in front of the line that opens the first group. -/
def relationsOpening (name : String) : String :=
  Stub.classOpening ++ className name ++
    (" extends Migration\n" ++ Stub.linesText (Stub.headLines.drop 7).dropLast ++ "    \x7b")

/-- Reads the relations off the migration that adds them, under a descriptive name. -/
def readRelations (name : String) (text : List Char) : Option (List Relation) := do
  let body ← text.dropPrefix? (relationsOpening name).toList
  let (groups, rest) ← readMany RelationBlocks.groupOpening RelationBlocks.readGroup body
  let _ ← rest.dropPrefix? Stub.downOpening.toList
  return groups.flatMap fun (table, entries) =>
    entries.map fun (column, target) => ⟨table, column, target.table, target.column⟩

/-- The text of the migration of relations, with the groups in the body of its first method. -/
theorem toList_relationsText (name : String) {set : RelationSet} {blocks : RelationBlocks}
    (h : RelationBlocks.ofSet? set = some blocks) :
    (relationsText name blocks).toList =
      (relationsOpening name).toList ++
        ((RelationBlocks.groupsOf set.groups.entries).flatMap (fun group =>
          RelationBlocks.groupOpening.toList ++ (RelationBlocks.groupText group).toList) ++
          (Stub.downOpening.toList ++
            (String.intercalate "\n" blocks.revert ++ Stub.ending).toList)) := by
  have hlast : Stub.headLines.drop 7 = (Stub.headLines.drop 7).dropLast ++ ["    \x7b"] := rfl
  have hopening : Stub.upOpening = " extends Migration\n" ++
      Stub.linesText (Stub.headLines.drop 7).dropLast ++ "    \x7b" ++ "\n" := by
    unfold Stub.upOpening
    conv_lhs => rw [hlast]
    rw [Stub.linesText_append, Stub.linesText_cons, Stub.linesText_nil, String.append_empty]
    simp only [String.append_assoc]
  -- There is a first line, and the break behind the brace is the one that it stands behind.
  obtain ⟨line, lines, hlines⟩ : ∃ line lines,
      RelationBlocks.applyLines set.groups.entries = line :: lines := by
    cases hentries : set.groups.entries with
    | nil => simp [RelationBlocks.ofSet?, RelationSet.isEmpty, hentries] at h
    | cons group groups => exact ⟨_, _, rfl⟩
  have hbody := RelationBlocks.flatMap_applyLines set.groups.entries
  rw [hlines, ← Text.break_append_intercalate, ← hlines] at hbody
  rw [relationsText, RelationBlocks.apply_of_ofSet? h, ← hbody, hopening]
  simp only [relationsOpening, String.toList_append, List.append_assoc]

/-- The migration of relations says what the relations are. -/
theorem readRelations_relationsText (name : String) {set : RelationSet} {blocks : RelationBlocks}
    (h : RelationBlocks.ofSet? set = some blocks) :
    readRelations name (relationsText name blocks).toList = some set.toList := by
  -- Behind the groups stands the end of `up`, which is not the opening of a group.
  have hending : (Stub.downOpening.toList ++
      (String.intercalate "\n" blocks.revert ++ Stub.ending).toList).dropPrefix?
        RelationBlocks.groupOpening.toList = none := by
    have hdown : Stub.downOpening =
        "\n    \x7d" ++ ("\n" ++ Stub.linesText Stub.middleLines.tail) := rfl
    have hbrace : "\n    \x7d".toList <+: Stub.downOpening.toList := by
      rw [hdown, String.toList_append]
      exact List.prefix_append _ _
    exact dropPrefix?_eq_none ⟨_, List.mem_singleton_self _, hbrace.trans (List.prefix_append _ _)⟩
      (by decide)
  have hgroups := readMany_append (by decide)
    (RelationBlocks.groupsOf set.groups.entries)
    (fun group _ behind => RelationBlocks.readGroup_append group behind) hending
  rw [toList_relationsText name h, readRelations, dropPrefix?_append]
  rw [Option.bind_eq_bind, Option.bind_some, hgroups, Option.bind_eq_bind, Option.bind_some]
  dsimp only
  rw [dropPrefix?_append, Option.bind_some, RelationBlocks.groupsOf, List.flatMap_map]
  rfl

end Assembler

end SchemaMigration
