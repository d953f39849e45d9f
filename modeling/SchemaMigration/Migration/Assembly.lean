import SchemaMigration.Migration.Artifact
import SchemaMigration.Migration.ClassName
import SchemaMigration.Migration.Relations
import SchemaMigration.Migration.Statement
import SchemaMigration.Migration.Stub

/-!
# `SchemaMigration.Migration.Assembly`: migration files from their parts
-/

set_option autoImplicit false

namespace SchemaMigration

/-- The templates of migrations and the extension of their files. -/
structure Assembler where
  createTable : Template
  relations : Template
  extension : String

namespace Assembler

/-- The indentation of the statements that make columns. -/
def statementIndent : String := "            "

/-- Indents statements for the body of a table migration. -/
def indent (statements : List String) : List String :=
  statements.map (statementIndent ++ ·)

/-- The assembler of files with an extension. -/
def ofExtension (extension : String) : Except Error Assembler := do
  let createTable ← Stub.createTable.template
  let relations ← Stub.relations.template
  return { createTable, relations, extension }

/-- The migration that creates a table with these lines as its body. -/
def tableMigration (assembler : Assembler) (key table : String) (lines : List String) :
    Except Error Artifact := do
  let content ← assembler.createTable.render
    [("class", className table), ("table", table), ("columns", String.intercalate "\n" lines)]
  return { path := Artifact.fileName key table assembler.extension, content, kind := .table }

/-- The migration that adds foreign keys, under a descriptive name. -/
def relationsMigration (assembler : Assembler) (key name : String) (blocks : RelationBlocks) :
    Except Error Artifact := do
  let content ← assembler.relations.render
    [("class", className name), ("apply", String.intercalate "\n" blocks.apply),
      ("revert", String.intercalate "\n" blocks.revert)]
  return { path := Artifact.fileName key name assembler.extension, content, kind := .relations }

end Assembler

end SchemaMigration
