import SchemaMigration.Proofs.Generation.CreatedColumns
import SchemaMigration.Proofs.Migration.TableLines

/-!
# `SchemaMigration.Proofs.Generation.MigrationLines`: a statement is not always one line

The migration of a table is made of lines: those of the stub, and in place of one of them a
line for every statement (`bodyLines`). This is so when no statement has a line feed. A line
feed in the name, the default or the comment of a column is quoted as it is, and then the
statement goes on in the next line, without its indentation. `migration_lines` has both: the lines
of the text as they are, and that they are the lines of the statements if and only if no column has
such a text.
-/

set_option autoImplicit false

namespace SchemaMigration.Generator

open SchemaMigration.Calendar

variable {config : Config} {now : Moment} {schema : Schema} {warnings : List String} {table : Table}

/-- A line for every column, in order, and one for each flag of the table. -/
def statementLines (table : Table) (columns : List Column) : List String :=
  columns.map (fun column => "            " ++ column.statement) ++
    (if table.timestamps then ["            $table->timestamps();"] else []) ++
    if table.softDelete then ["            $table->softDeletes();"] else []

/-- These lines, or an empty line if there is none of them. -/
def bodyLines (table : Table) (columns : List Column) : List String :=
  if statementLines table columns = [] then [""] else statementLines table columns

theorem bodyOf_eq (model : Model) (table : Table) :
    bodyOf model table = statementLines table (model.columnsOf table) := by
  simp only [bodyOf, Assembler.indent, statements, statementLines, List.map_append, List.map_map]
  cases table.timestamps <;> cases table.softDelete <;> rfl

/-- The lines of a body are those of its statements. -/
theorem lines_bodyOf (model : Model) (table : Table) :
    Text.lines (String.intercalate "\n" (bodyOf model table)) =
      (bodyLines table (model.columnsOf table)).flatMap Text.lines := by
  rw [bodyOf_eq, bodyLines]
  cases statementLines table (model.columnsOf table) with
  | nil => rfl
  | cons first rest => rw [if_neg (List.cons_ne_nil _ _), Text.lines_intercalate]

theorem feed_not_mem_statementLines_iff {columns : List Column} :
    (∀ line ∈ statementLines table columns, '\n' ∉ line.toList) ↔
      ∀ column ∈ columns, column.OnOneLine := by
  have hcolumns : (∀ line ∈ columns.map (fun column => "            " ++ column.statement),
      '\n' ∉ line.toList) ↔ ∀ column ∈ columns, column.OnOneLine := by
    simp [← Column.feed_not_mem_statement_iff]
  have hstamps : ∀ line ∈ if table.timestamps then ["            $table->timestamps();"] else [],
      '\n' ∉ line.toList := by
    cases table.timestamps <;> decide
  have hsoft : ∀ line ∈ if table.softDelete then ["            $table->softDeletes();"] else [],
      '\n' ∉ line.toList := by
    cases table.softDelete <;> decide
  rw [statementLines, List.forall_mem_append, List.forall_mem_append, hcolumns]
  exact ⟨fun h => h.1.1, fun h => ⟨⟨h, hstamps⟩, hsoft⟩⟩

/-- The lines of a body are its own when the statement of every column is one line. -/
theorem flatMap_lines_bodyLines_iff {columns : List Column} :
    (bodyLines table columns).flatMap Text.lines = bodyLines table columns ↔
      ∀ column ∈ columns, column.OnOneLine := by
  rw [Text.flatMap_lines_eq_self_iff, ← feed_not_mem_statementLines_iff, bodyLines]
  split
  · next hnone =>
    rw [hnone]
    simp
  · rfl

/-- The lines of the file that creates a table. -/
theorem lines_of_createsTable {made : Artifact} {model : Model}
    (hname : Text.isName table.name = true)
    (h : made.CreatesTable table.name (bodyOf model table)) :
    Text.lines made.content = Assembler.tableLines table.name
      ((bodyLines table (model.columnsOf table)).flatMap Text.lines) := by
  rw [h.2, Assembler.lines_tableText hname, lines_bodyOf]

/-- In an accepted schema, the migration of a table consists of the lines of the create stub with
the class and the table filled in, and with the lines of the statements in place of the line of the
columns. A statement has a line to itself, behind its indentation, when no text in it has a line
feed, and the migration has one line for every statement when this is so for all columns. -/
theorem migration_lines (hcheck : check config schema.toModel = .ok warnings)
    (htable : table ∈ schema.tables) :
    (∀ column : Column, Text.lines column.statement = [column.statement] ↔ column.OnOneLine) ∧
      ∀ now output, generate config now schema = .ok output →
        ∃ front made back, output.files = front ++ made :: back ∧
          (∃ body, made.CreatesTable table.name body) ∧
          (∀ other ∈ front ++ back, ∀ body, ¬ other.CreatesTable table.name body) ∧
          Text.lines made.content = Assembler.tableLines table.name
            ((bodyLines table (schema.toModel.columnsOf table)).flatMap Text.lines) ∧
          (Text.lines made.content = Assembler.tableLines table.name
              (bodyLines table (schema.toModel.columnsOf table)) ↔
            ∀ column ∈ schema.toModel.columnsOf table, column.OnOneLine) := by
  refine ⟨fun column => Text.lines_eq_singleton_iff.trans Column.feed_not_mem_statement_iff,
    fun now output houtput => ?_⟩
  have hname : Text.isName table.name = true :=
    Model.isName_of_validate (check_eq_ok_iff.1 hcheck).2.1 htable
  obtain ⟨front, made, back, hfiles, hcreates, hothers⟩ :=
    exists_createsTable_of_generate houtput htable
  have hlines := lines_of_createsTable hname hcreates
  refine ⟨front, made, back, hfiles, ⟨_, hcreates⟩, hothers, hlines, ?_⟩
  rw [hlines, Assembler.tableLines_inj]
  exact flatMap_lines_bodyLines_iff

/-- A table with a comment of two lines. -/
def notes : Table := { id := .number 1, name := "notes", softDelete := true }

/-- The schema of this table alone. -/
def notesSchema : Schema where
  tables := [notes]
  columns := .ofList [("1", [.increments "id",
    { name := "title", type := .string, comment := some "first\nsecond" }])]

theorem check_notesSchema : check fixedTime notesSchema.toModel = .ok [] :=
  check_fixedTime_of_folded (by decide) (by decide)

theorem exists_generate_notesSchema :
    ∃ output, generate fixedTime firstMoment notesSchema = .ok output :=
  exists_generate_fixedTime check_notesSchema (by decide)

theorem columnsOf_notes : notesSchema.toModel.columnsOf notes = [.increments "id",
    { name := "title", type := .string, comment := some "first\nsecond" }] := by
  decide

/-- The statements of three calls stand in four lines. -/
theorem lines_notes : (bodyLines notes (notesSchema.toModel.columnsOf notes)).flatMap Text.lines = [
    "            $table->increments('id');",
    "            $table->string('title')->comment('first",
    "second');",
    "            $table->softDeletes();"] := by
  have hbody : bodyLines notes [.increments "id",
      { name := "title", type := .string, comment := some "first\nsecond" }] = [
    "            $table->increments('id');",
    "            $table->string('title')->comment('first" ++ "\n" ++ "second');",
    "            $table->softDeletes();"] := rfl
  rw [columnsOf_notes, hbody, List.flatMap_cons, List.flatMap_cons, List.flatMap_cons,
    Text.lines_append, Text.lines_eq_singleton_iff.2 (by decide),
    Text.lines_eq_singleton_iff.2 (by decide), Text.lines_eq_singleton_iff.2 (by decide),
    Text.lines_eq_singleton_iff.2 (by decide)]
  rfl

/-- The second line of a comment is a line of the migration. -/
theorem migration_lines_notes :
    check fixedTime notesSchema.toModel = .ok [] ∧ notes ∈ notesSchema.tables ∧
      ∃ output made, generate fixedTime firstMoment notesSchema = .ok output ∧
        made ∈ output.files ∧
        Text.lines made.content = Assembler.tableLines "notes" [
          "            $table->increments('id');",
          "            $table->string('title')->comment('first",
          "second');",
          "            $table->softDeletes();"] := by
  have htable : notes ∈ notesSchema.tables := List.mem_singleton_self _
  obtain ⟨output, houtput⟩ := exists_generate_notesSchema
  obtain ⟨-, hall⟩ := migration_lines check_notesSchema htable
  obtain ⟨front, made, back, hfiles, -, -, hlines, -⟩ := hall _ _ houtput
  refine ⟨check_notesSchema, htable, output, made, houtput, ?_, ?_⟩
  · rw [hfiles]
    simp
  · rw [hlines, lines_notes]
    rfl

/-- The migration of an accepted schema may have more lines than its statements. -/
theorem not_onOneLine_notes :
    check fixedTime notesSchema.toModel = .ok [] ∧ notes ∈ notesSchema.tables ∧
      ∃ output made, generate fixedTime firstMoment notesSchema = .ok output ∧
        made ∈ output.files ∧ (∃ body, made.CreatesTable notes.name body) ∧
        Text.lines made.content ≠ Assembler.tableLines notes.name
          (bodyLines notes (notesSchema.toModel.columnsOf notes)) := by
  have htable : notes ∈ notesSchema.tables := List.mem_singleton_self _
  obtain ⟨output, houtput⟩ := exists_generate_notesSchema
  obtain ⟨front, made, back, hfiles, hcreates, -⟩ :=
    exists_createsTable_of_generate houtput htable
  refine ⟨check_notesSchema, htable, output, made, houtput, ?_, ⟨_, hcreates⟩, fun hlines => ?_⟩
  · rw [hfiles]
    simp
  · -- Four lines are not three.
    rw [lines_of_createsTable (by decide) hcreates, Assembler.tableLines_inj,
      lines_notes, columnsOf_notes] at hlines
    exact absurd (congrArg List.length hlines) (by decide)

end SchemaMigration.Generator
