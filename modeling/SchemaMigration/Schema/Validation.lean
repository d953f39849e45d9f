import SchemaMigration.Schema.Basic
import SchemaMigration.Text.Literal

/-!
# `SchemaMigration.Schema.Validation`: schemas that can be generated from

Tables are checked first, all of them, then foreign keys. A foreign key that
refers to nothing is an error in strict mode and a warning in lenient mode.
-/

set_option autoImplicit false

namespace SchemaMigration

/-- How foreign keys are checked. -/
inductive Strictness where
  /-- A foreign key that refers to nothing is an error. -/
  | strict
  /-- A foreign key that refers to nothing is a warning. -/
  | lenient
  deriving DecidableEq, Repr

namespace Table

/-- Checks the name of a table. -/
def checkName (table : Table) : Except SchemaFault Unit :=
  if table.name = "" then .error (.unnamedTable table.id)
  else if Text.isName table.name then .ok ()
  else .error (.badTableName table.name)

/-- Checks that columns have names and that no name is in `seen` or comes twice. -/
def checkColumnNames (table : Table) (seen : List String) :
    List Column → Except SchemaFault Unit
  | [] => .ok ()
  | column :: rest =>
    if column.name = "" then .error (.unnamedColumn table.name)
    else if column.name ∈ seen then .error (.repeatedColumn table.name column.name)
    else checkColumnNames table (column.name :: seen) rest

end Table

namespace Model

/-- Checks a table and its columns. -/
def checkTable (model : Model) (table : Table) : Except Error Unit := do
  table.checkName.mapError .malformedSchema
  let columns ← model.columnsFor table
  (table.checkColumnNames [] columns).mapError .malformedSchema

/-- Checks that the foreign key of a column refers to a column of the first table of its
target's name. -/
def checkForeignKey (model : Model) (table : Table) (column : Column) : Except Error Unit :=
  match column.relation? with
  -- A key without a target counts as none.
  | none => .ok ()
  | some key =>
    let unresolved (target : Unresolved) : Error :=
      .unresolvedForeignKey table.name column.name target
    match model.tableNamed? key.table.name with
    | none => .error (unresolved (.noTable key.table.name))
    | some target => do
      let columns ← model.columnsFor target
      if columns.any fun c => c.name == key.column.name then .ok ()
      else .error (unresolved (.noColumn target.name key.column.name))

/-- Checks the foreign keys of columns. In lenient mode the result is a warning for each that
fails. -/
def checkColumns (model : Model) (strictness : Strictness) (table : Table) :
    List Column → Except Error (List String)
  | [] => .ok []
  | column :: rest =>
    match model.checkForeignKey table column, strictness with
    | .ok (), _ => checkColumns model strictness table rest
    | .error error, .strict => .error error
    | .error error, .lenient => do
      return error.message :: (← checkColumns model strictness table rest)

/-- Checks the foreign keys of tables. -/
def checkForeignKeys (model : Model) (strictness : Strictness) :
    List Table → Except Error (List String)
  | [] => .ok []
  | table :: rest => do
    let columns ← model.columnsFor table
    let warnings ← model.checkColumns strictness table columns
    return warnings ++ (← checkForeignKeys model strictness rest)

/-- Checks a model. The result is the warnings. -/
def validate (model : Model) (strictness : Strictness) : Except Error (List String) := do
  model.tables.forM model.checkTable
  model.checkForeignKeys strictness model.tables

/-- Whether a model passes in strict mode. -/
def isValid (model : Model) : Bool :=
  (model.validate .strict).isOk

end Model

end SchemaMigration
