import SchemaMigration.Generation.Collection
import SchemaMigration.Text.Size

/-!
# `SchemaMigration.Generation.Summary`: a run in numbers
-/

set_option autoImplicit false

namespace SchemaMigration

/-- A run in numbers. -/
structure Summary where
  tableMigrations : Nat
  hasRelations : Bool
  totalFiles : Nat
  warningCount : Nat
  totalBytes : Nat
  deriving DecidableEq, Repr

namespace Summary

/-- The numbers of a collection. -/
def ofCollection (c : Collection) : Summary where
  tableMigrations := (c.ofKind .table).length
  hasRelations := c.relations?.isSome
  totalFiles := c.files.length
  warningCount := c.warnings.length
  totalBytes := c.files.foldl (fun bytes file => bytes + file.byteSize) 0

/-- A run in numbers, one on each line. -/
def text (s : Summary) : String :=
  let relations := if s.hasRelations then "yes" else "none"
  s!"Table migrations: {s.tableMigrations}\n" ++
    s!"Foreign keys:     {relations}\n" ++
    s!"Total files:      {s.totalFiles}\n" ++
    s!"Warnings:         {s.warningCount}\n" ++
    s!"Total size:       {Text.sizeText s.totalBytes}\n"

end Summary

end SchemaMigration
