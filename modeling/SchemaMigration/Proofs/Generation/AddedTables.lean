import SchemaMigration.Proofs.Generation.CreatedColumns
import SchemaMigration.Proofs.Generation.StoredSnapshot

/-!
# `SchemaMigration.Proofs.Generation.AddedTables`: tables that were added with their columns

A table is added together with its columns. The columns go under the text of its identifier,
and a number and its digits have one text, as have two tables with one identifier. So an
addition may replace the columns of a table that was added before, and nothing looks at what
it replaces. The columns of a table are in the end those of the last addition under its text
(`columnsOf_addTables`).

The check compares the names of tables and not their identifiers. A run therefore goes
through, and a migration has the columns that its table was added with only if the last
addition under its text had columns with the same statements (`created_addTables`).
-/

set_option autoImplicit false

namespace SchemaMigration

open SchemaMigration.Calendar
open SchemaMigration.Generator (CreatedWith createdWith_iff generate check fixedTime firstMoment)

namespace Schema

variable {schema : Schema} {before after calls : List (Table × List Column)} {key : String}

/-! ### The columns under a key -/

/-- Tables under other keys leave the columns under a key alone. -/
theorem get?_addTables_of_ne (schema : Schema) (h : ∀ call ∈ calls, call.1.id.key ≠ key) :
    (schema.addTables calls).columns.get? key = schema.columns.get? key := by
  induction calls generalizing schema with
  | nil => rfl
  | cons call rest ih =>
    rw [List.forall_mem_cons] at h
    show ((schema.addTable call.1 call.2).addTables rest).columns.get? key = _
    rw [ih _ h.2, addTable, Keyed.get?_insert, if_neg h.1.symm]

/-- The columns of a table are those of the last addition under its key. -/
theorem columnsOf_addTables (schema : Schema) {table : Table} {last : Table × List Column}
    (hlast : last.1.id.key = table.id.key)
    (hlater : ∀ later ∈ after, later.1.id.key ≠ table.id.key) :
    (schema.addTables (before ++ last :: after)).toModel.columnsOf table = last.2 := by
  have hsplit : schema.addTables (before ++ last :: after) =
      ((schema.addTables before).addTable last.1 last.2).addTables after := by
    rw [addTables, List.foldl_append]
    rfl
  rw [Model.columnsOf, hsplit, get?_addTables_of_ne _ hlater, addTable, Keyed.get?_insert,
    if_pos hlast.symm, Option.getD_some]

/-- Among additions with one under a key there is a last one. -/
theorem exists_last_call {call : Table × List Column} (h : call ∈ calls)
    (hkey : call.1.id.key = key) :
    ∃ before last after, calls = before ++ last :: after ∧ last.1.id.key = key ∧
      ∀ later ∈ after, later.1.id.key ≠ key := by
  induction calls generalizing call with
  | nil => cases h
  | cons first rest ih =>
    by_cases hlater : ∃ later ∈ rest, later.1.id.key = key
    · obtain ⟨later, hmem, hlaterKey⟩ := hlater
      obtain ⟨before, last, after, rfl, hlast, hafter⟩ := ih hmem hlaterKey
      exact ⟨first :: before, last, after, rfl, hlast, hafter⟩
    · -- The addition can only be the first one.
      have hnone : ∀ later ∈ rest, later.1.id.key ≠ key := fun later hmem heq =>
        hlater ⟨later, hmem, heq⟩
      rcases List.mem_cons.1 h with rfl | hmem
      · exact ⟨[], call, rest, rfl, hkey, hnone⟩
      · exact absurd hkey (hnone call hmem)

/-- A table that was added has the columns of the last addition under its key. -/
theorem exists_last_of_mem {call : Table × List Column} (h : call ∈ calls) :
    ∃ before last after, calls = before ++ last :: after ∧ last.1.id.key = call.1.id.key ∧
      (∀ later ∈ after, later.1.id.key ≠ call.1.id.key) ∧
      (empty.addTables calls).toModel.columnsOf call.1 = last.2 := by
  obtain ⟨before, last, after, rfl, hkey, hlater⟩ := exists_last_call h rfl
  exact ⟨before, last, after, rfl, hkey, hlater, columnsOf_addTables empty hkey hlater⟩

theorem mem_tables_addTables {call : Table × List Column} (h : call ∈ calls) :
    call.1 ∈ (schema.addTables calls).tables := by
  rw [tables_addTables]
  exact List.mem_append_right _ (List.mem_map_of_mem h)

/-! ### Migrations -/

/-- The migration of each table that was added has the statements of the columns that were added
last under the key of the table. All tables have the statements of the columns that they were
added with if and only if tables under one key were added with the same statements. -/
theorem created_addTables {config : Config} {now : Moment} {output : Collection}
    (h : generate config now (empty.addTables calls) = .ok output) :
    (∀ call ∈ calls, ∃ before last after, calls = before ++ last :: after ∧
      last.1.id.key = call.1.id.key ∧ (∀ later ∈ after, later.1.id.key ≠ call.1.id.key) ∧
      CreatedWith output.files call.1.name (TableStatement.ofTable call.1 last.2)) ∧
    ((∀ call ∈ calls,
        CreatedWith output.files call.1.name (TableStatement.ofTable call.1 call.2)) ↔
      ∀ call ∈ calls, ∀ other ∈ calls, call.1.id.key = other.1.id.key →
        call.2.map Column.statement = other.2.map Column.statement) := by
  refine ⟨fun call hcall => ?_, fun hown call hcall other hother hkey => ?_,
    fun hsame call hcall => ?_⟩
  · obtain ⟨before, last, after, hsplit, hkey, hlater, hcolumns⟩ := exists_last_of_mem hcall
    refine ⟨before, last, after, hsplit, hkey, hlater, ?_⟩
    rw [createdWith_iff h (mem_tables_addTables hcall), hcolumns]
  · -- Both tables are created with the columns that stand under their key.
    have hcall' := (createdWith_iff h (mem_tables_addTables hcall)).1 (hown call hcall)
    have hother' := (createdWith_iff h (mem_tables_addTables hother)).1 (hown other hother)
    have hcolumns : (empty.addTables calls).toModel.columnsOf call.1 =
        (empty.addTables calls).toModel.columnsOf other.1 := by
      rw [Model.columnsOf, Model.columnsOf, hkey]
    rw [hcall', hother', hcolumns]
  · obtain ⟨before, last, after, hsplit, hkey, -, hcolumns⟩ := exists_last_of_mem hcall
    rw [createdWith_iff h (mem_tables_addTables hcall), hcolumns]
    exact hsame call hcall last (by simp [hsplit]) hkey.symm

/-- A table under the number one, with its column. -/
def usersWithEmail : Table × List Column :=
  ({ id := .number 1, name := "users" }, [{ name := "email", type := .string }])

/-- A table under the digit of this number, with its column. -/
def postsWithTitle : Table × List Column :=
  ({ id := .text "1", name := "posts" }, [{ name := "title", type := .text }])

/-- Both of them, one after the other. -/
def sameKeyCalls : List (Table × List Column) := [usersWithEmail, postsWithTitle]

theorem check_sameKeyCalls : check fixedTime (empty.addTables sameKeyCalls).toModel = .ok [] :=
  Generator.check_fixedTime_of_folded (by decide) (by decide)

theorem exists_generate_sameKeyCalls :
    ∃ output, generate fixedTime firstMoment (empty.addTables sameKeyCalls) = .ok output :=
  Generator.exists_generate_fixedTime check_sameKeyCalls (by decide)

/-- The first of two tables with one key is created with the columns of the second. -/
theorem created_addTables_sameKey :
    ∃ output, generate fixedTime firstMoment (empty.addTables sameKeyCalls) = .ok output ∧
      CreatedWith output.files "users"
        (TableStatement.ofTable usersWithEmail.1 postsWithTitle.2) := by
  obtain ⟨output, houtput⟩ := exists_generate_sameKeyCalls
  have hmem : usersWithEmail ∈ sameKeyCalls := List.mem_cons_self
  obtain ⟨before, last, after, hsplit, -, hlater, hcreated⟩ :=
    (created_addTables houtput).1 usersWithEmail hmem
  have hlast : last = postsWithTitle := by
    cases before with
    | nil =>
      -- Behind the first addition there is another one under its key.
      obtain ⟨-, rfl⟩ := List.cons.inj hsplit
      exact absurd rfl (hlater postsWithTitle (List.mem_singleton_self _))
    | cons first before =>
      obtain ⟨-, hsplit⟩ := List.cons.inj hsplit
      rcases List.append_eq_singleton_iff.1 hsplit.symm with ⟨-, hback⟩ | ⟨-, hback⟩
      · exact List.head_eq_of_cons_eq hback
      · cases hback
  exact ⟨output, houtput, hlast ▸ hcreated⟩

/-- With two tables under one key, the first is not created with the columns that it was added
with, although the schema passes the check. -/
theorem not_created_addTables_sameKey :
    check fixedTime (empty.addTables sameKeyCalls).toModel = .ok [] ∧
      ∃ output, generate fixedTime firstMoment (empty.addTables sameKeyCalls) = .ok output ∧
        usersWithEmail ∈ sameKeyCalls ∧
        ¬ CreatedWith output.files usersWithEmail.1.name
          (TableStatement.ofTable usersWithEmail.1 usersWithEmail.2) := by
  obtain ⟨output, houtput⟩ := exists_generate_sameKeyCalls
  have hmem : usersWithEmail ∈ sameKeyCalls := List.mem_cons_self
  refine ⟨check_sameKeyCalls, output, houtput, hmem, ?_⟩
  rw [createdWith_iff houtput (mem_tables_addTables hmem)]
  decide

end Schema

end SchemaMigration
