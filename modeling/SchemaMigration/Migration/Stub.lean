import SchemaMigration.Migration.Template

/-!
# `SchemaMigration.Migration.Stub`: the two migrations as templates

One stub creates a table, the other adds foreign keys. Each is kept as its lines.
-/

set_option autoImplicit false

namespace SchemaMigration

/-- The stubs of migrations. -/
inductive Stub where
  /-- A migration that creates a table. -/
  | createTable
  /-- A migration that adds foreign keys. -/
  | relations
  deriving DecidableEq, Repr

namespace Stub

/-- The name of a stub in messages. -/
def name : Stub → String
  | .createTable => "create.stub"
  | .relations => "relations.stub"

/-- The slots that a stub has. -/
def slots : Stub → List String
  | .createTable => ["class", "table", "columns"]
  | .relations => ["class", "apply", "revert"]

/-- The lines up to the body of the method that runs a migration. -/
def headLines : List String := [
  "<?php",
  "",
  "use Illuminate\\Support\\Facades\\Schema;",
  "use Illuminate\\Database\\Schema\\Blueprint;",
  "use Illuminate\\Database\\Migrations\\Migration;",
  "",
  "class \x7b\x7bclass\x7d\x7d extends Migration",
  "\x7b",
  "    /**",
  "     * Run the migrations.",
  "     *",
  "     * @return void",
  "     */",
  "    public function up()",
  "    \x7b"]

/-- The lines between the bodies of the two methods. -/
def middleLines : List String := [
  "    \x7d",
  "",
  "    /**",
  "     * Reverse the migrations.",
  "     *",
  "     * @return void",
  "     */",
  "    public function down()",
  "    \x7b"]

/-- The lines behind the body of the method that reverses a migration. -/
def tailLines : List String := [
  "    \x7d",
  "\x7d"]

/-- The body of the method that runs a migration. -/
def upLines : Stub → List String
  | .createTable => [
    "        Schema::create('\x7b\x7btable\x7d\x7d', function (Blueprint $table) \x7b",
    "\x7b\x7bcolumns\x7d\x7d",
    "        \x7d);"]
  | .relations => ["\x7b\x7bapply\x7d\x7d"]

/-- The body of the method that reverses a migration. -/
def downLines : Stub → List String
  | .createTable => ["        Schema::dropIfExists('\x7b\x7btable\x7d\x7d');"]
  | .relations => ["\x7b\x7brevert\x7d\x7d"]

/-- The lines of a stub. -/
def lines (stub : Stub) : List String :=
  headLines ++ stub.upLines ++ middleLines ++ stub.downLines ++ tailLines

/-- The text of a stub. Every line is ended. -/
def source (stub : Stub) : String :=
  String.join (stub.lines.map (· ++ "\n"))

/-- The template of a stub. It is refused unless it has exactly the slots of the stub. -/
def template (stub : Stub) : Except Error Template := do
  let template ← Template.ofText stub.name stub.source
  if template.slots.length = stub.slots.length ∧ stub.slots.all template.hasSlot then
    return template
  else .error (.template stub.name (.wrongSlots template.slots stub.slots))

end Stub

end SchemaMigration
