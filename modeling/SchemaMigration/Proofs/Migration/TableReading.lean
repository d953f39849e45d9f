import SchemaMigration.Generation.Generator
import SchemaMigration.Proofs.Migration.Rendering
import SchemaMigration.Proofs.Migration.StatementReading

/-!
# `SchemaMigration.Proofs.Migration.TableReading`: what the migration of a table says

The migration of a table has one statement for each column, and one for each flag of the
table. `Assembler.readTable` reads the statements off the whole text of the file. It knows
the table's name, hence all that stands around the statements, and reads what stands between
from left to right.

Each statement has a line of its own in the file. That is no help to a reader, since a quoted
text may have line breaks. A statement ends where it says so (`Column.read_statement`), and
another one follows when the break behind it is followed by the indentation of statements.
-/

set_option autoImplicit false

namespace SchemaMigration

open SchemaMigration.Text (StartsWith dropPrefix?_append dropPrefix?_eq_none startsWith_append
  readMany readMany_append)

/-- A statement in the migration of a table. -/
inductive TableStatement where
  | column (parts : Statement.Parts)
  | timestamps
  | softDeletes
  deriving DecidableEq, Repr

/-- The names of the columns that the flags of a table add. -/
def Table.flagColumns (table : Table) : List String :=
  (if table.timestamps then ["created_at", "updated_at"] else []) ++
    if table.softDelete then ["deleted_at"] else []

namespace TableStatement

/-- The text of a statement. -/
def text : TableStatement → String
  | .column parts => parts.text
  | .timestamps => Statement.timestamps
  | .softDeletes => Statement.softDeletes

/-- The names of the columns that a statement creates. -/
def names : TableStatement → List String
  | .column parts => [parts.name]
  | .timestamps => ["created_at", "updated_at"]
  | .softDeletes => ["deleted_at"]

/-- Reads the statement that a text starts with. -/
def read (text : List Char) : Option (TableStatement × List Char) :=
  match Statement.Parts.read text with
  | some (parts, rest) => some (.column parts, rest)
  | none =>
    match text.dropPrefix? Statement.timestamps.toList with
    | some rest => some (.timestamps, rest)
    | none =>
      (text.dropPrefix? Statement.softDeletes.toList).map fun rest => (.softDeletes, rest)

/-- The statements that make a table with these columns. -/
def ofTable (table : Table) (columns : List Column) : List TableStatement :=
  columns.map (fun column => .column column.parts) ++
    (if table.timestamps then [.timestamps] else []) ++
    if table.softDelete then [.softDeletes] else []

variable {table : Table} {columns other : List Column} {s : TableStatement}

theorem map_text_ofTable (table : Table) (columns : List Column) :
    (ofTable table columns).map text = Generator.statements table columns := by
  have hcolumns : (columns.map fun column => TableStatement.column column.parts).map text =
      columns.map Column.statement := by
    rw [List.map_map]
    exact List.map_congr_left fun column _ => column.text_columnParts
  rw [ofTable, Generator.statements, List.map_append, List.map_append, hcolumns]
  cases table.timestamps <;> cases table.softDelete <;> rfl

/-- The statements of a table create its columns, and those that its flags add. -/
theorem names_ofTable (table : Table) (columns : List Column) :
    (ofTable table columns).flatMap names = columns.map (·.name) ++ table.flagColumns := by
  have hcolumns : (columns.map fun column => TableStatement.column column.parts).flatMap names =
      columns.map (·.name) := by
    rw [List.flatMap_map]
    exact (List.map_eq_flatMap ..).symm
  rw [ofTable, Table.flagColumns, List.flatMap_append, List.flatMap_append, hcolumns,
    List.append_assoc]
  cases table.timestamps <;> cases table.softDelete <;> rfl

/-- The statements of a table are the same for columns that have the same statements. -/
theorem ofTable_inj_iff :
    ofTable table columns = ofTable table other ↔
      columns.map Column.statement = other.map Column.statement := by
  rw [ofTable, ofTable, List.append_left_inj, List.append_left_inj]
  constructor
  · intro h
    have htexts := congrArg (List.map text) h
    simp only [List.map_map, Function.comp_def, text, Column.text_columnParts] at htexts
    exact htexts
  · -- A statement says the parts of its column.
    intro h
    have hread (columns : List Column) :
        (columns.map Column.statement).map (fun text => (read text.toList).map Prod.fst) =
          (columns.map fun column => TableStatement.column column.parts).map some := by
      rw [List.map_map, List.map_map]
      refine List.map_congr_left fun column _ => ?_
      have hcolumn := column.read_append []
      rw [List.append_nil] at hcolumn
      simp only [Function.comp_apply, read, hcolumn, Option.map_some]
    refine (List.map_inj_right fun _ _ => Option.some.inj).1 ?_
    rw [← hread, ← hread, h]

/-- The statements of the flags have no name in them, so they are not taken for columns. -/
theorem read_timestamps (rest : List Char) :
    read (Statement.timestamps.toList ++ rest) = some (.timestamps, rest) := by
  -- The reader of columns looks for the quote of a name and finds the closing parenthesis.
  have hcolumn : Statement.Parts.read (Statement.timestamps.toList ++ rest) = none := rfl
  rw [read, hcolumn]
  dsimp only
  rw [dropPrefix?_append]

theorem read_softDeletes (rest : List Char) :
    read (Statement.softDeletes.toList ++ rest) = some (.softDeletes, rest) := by
  have hcolumn : Statement.Parts.read (Statement.softDeletes.toList ++ rest) = none := rfl
  have htimestamps : (Statement.softDeletes.toList ++ rest).dropPrefix?
      Statement.timestamps.toList = none :=
    dropPrefix?_eq_none (startsWith_append ..) (by decide)
  rw [read, hcolumn]
  dsimp only
  rw [htimestamps, dropPrefix?_append]
  rfl

/-- The statements of a table are read back, whatever follows. -/
theorem read_append (h : s ∈ ofTable table columns) (rest : List Char) :
    read (s.text.toList ++ rest) = some (s, rest) := by
  rw [ofTable, List.mem_append, List.mem_append] at h
  rcases h with (h | h) | h
  · obtain ⟨column, -, rfl⟩ := List.mem_map.1 h
    rw [read, text, Statement.Parts.read_text column.readable_parts]
  · split at h
    · obtain rfl := List.mem_singleton.1 h
      exact read_timestamps rest
    · cases h
  · split at h
    · obtain rfl := List.mem_singleton.1 h
      exact read_softDeletes rest
    · cases h

end TableStatement

namespace Assembler

/-- The text of a table's migration in front of the line of its first statement. -/
def tableOpening (table : String) : String :=
  Stub.classOpening ++ className table ++ (Stub.upOpening ++ Stub.createOpening) ++ table ++
    "', function (Blueprint $table) \x7b"

/-- The text of a table's migration behind its last statement. -/
def tableEnding (table : String) : String :=
  Stub.dropOpening ++ table ++ Stub.dropEnding

/-- What stands in front of a statement. -/
def lineOpening : String :=
  "\n" ++ statementIndent

/-- Reads the statements off the migration that creates a table of this name. Without any, there
is an empty line between the braces. -/
def readTable (table : String) (text : List Char) : Option (List TableStatement) := do
  let body ← text.dropPrefix? (tableOpening table).toList
  let (found, rest) ← readMany lineOpening TableStatement.read body
  -- With a statement on it, the line between the braces has been read from its break on.
  let ending := (if found.isEmpty then "\n" else "") ++ tableEnding table
  if rest = ending.toList then some found else none

/-- Every statement has a line, which begins behind a line break. -/
theorem intercalate_indent (s : TableStatement) (others : List TableStatement) :
    "\n".toList ++ (String.intercalate "\n" (indent ((s :: others).map (·.text)))).toList =
      (s :: others).flatMap fun s => lineOpening.toList ++ s.text.toList := by
  rw [indent, List.map_cons, List.map_cons, Text.break_append_intercalate, ← List.map_cons,
    ← List.map_cons, List.flatMap_map, List.flatMap_map]
  simp only [lineOpening, String.toList_append, List.append_assoc]

/-- The text of a table's migration, with the statements as the lines between the braces. -/
theorem toList_tableText (table : String) (found : List TableStatement) :
    (tableText table (indent (found.map (·.text)))).toList =
      (tableOpening table).toList ++
        ((found.flatMap fun s => lineOpening.toList ++ s.text.toList) ++
          ((if found.isEmpty then "\n" else "") ++ tableEnding table).toList) := by
  -- The break behind the brace is the one that the first statement stands behind.
  have hbody : Stub.createBody = "', function (Blueprint $table) \x7b" ++ "\n" := rfl
  have htext (lines : List String) : (tableText table lines).toList =
      (tableOpening table).toList ++
        ("\n".toList ++
          ((String.intercalate "\n" lines).toList ++ (tableEnding table).toList)) := by
    simp only [tableText, hbody, tableOpening, tableEnding, String.toList_append, List.append_assoc]
  rw [htext]
  cases found with
  | nil =>
    have hempty : (String.intercalate "\n" (indent [])).toList = [] := rfl
    rw [List.map_nil, hempty, List.flatMap_nil, List.nil_append, List.nil_append,
      String.toList_append]
    rfl
  | cons s others =>
    rw [← intercalate_indent, List.append_assoc]
    simp

/-- Behind the last statement no other one follows. -/
theorem dropPrefix?_lineOpening (table : String) (empty : Bool) :
    ((if empty then "\n" else "") ++ tableEnding table).toList.dropPrefix? lineOpening.toList =
      none := by
  have hbrace : "\n        \x7d);".toList <+: (tableEnding table).toList := by
    simp only [tableEnding, Stub.dropOpening, String.toList_append, List.append_assoc]
    exact List.prefix_append _ _
  -- The statements end in an empty line or in the brace, and neither opens a statement.
  have hstarts : StartsWith ["\n\n", "\n        \x7d);"]
      ((if empty then "\n" else "") ++ tableEnding table).toList := by
    rw [String.toList_append]
    cases empty with
    | false =>
      rw [if_neg Bool.false_ne_true, String.toList_empty, List.nil_append]
      exact ⟨_, List.mem_cons_of_mem _ List.mem_cons_self, hbrace⟩
    | true =>
      have hbreaks : "\n\n".toList <+: "\n".toList ++ "\n        \x7d);".toList := by decide
      rw [if_pos rfl]
      exact ⟨_, List.mem_cons_self, hbreaks.trans ((List.prefix_append_right_inj _).2 hbrace)⟩
  exact dropPrefix?_eq_none hstarts (by decide)

/-- The migration of a table says what the columns of the table are, and its flags. -/
theorem readTable_tableText (table : Table) (columns : List Column) :
    readTable table.name
        (tableText table.name (indent (Generator.statements table columns))).toList =
      some (TableStatement.ofTable table columns) := by
  have hmany := readMany_append (by decide) (TableStatement.ofTable table columns)
    (fun s hs => TableStatement.read_append hs)
    (dropPrefix?_lineOpening table.name (TableStatement.ofTable table columns).isEmpty)
  rw [← TableStatement.map_text_ofTable, toList_tableText, readTable, dropPrefix?_append]
  simp only [Option.bind_eq_bind, Option.bind_some, hmany, if_true]

end Assembler

end SchemaMigration
