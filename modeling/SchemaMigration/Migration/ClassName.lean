import SchemaMigration.Text.PascalCase

/-!
# `SchemaMigration.Migration.ClassName`: the class of a migration
-/

set_option autoImplicit false

namespace SchemaMigration

/-- The class of the migration that creates a table. -/
def className (table : String) : String :=
  "Create" ++ Text.pascalCase table ++ "Table"

end SchemaMigration
