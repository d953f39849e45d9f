import Mathlib.Data.List.Nodup
import SchemaMigration.Generation.Generator
import SchemaMigration.Proofs.Outcome
import SchemaMigration.Proofs.Schema.StructuralFaults
import SchemaMigration.Proofs.Text.WordLetters

/-!
# `SchemaMigration.Proofs.Generation.Acceptance`: what a check establishes

A run starts only after its settings and its schema have passed a check. `Accepted`
collects what later steps rely on: a step of at least one second, a group of
distinct columns for every table, and migrations with distinct classes.

The checks of names keep a list of what they have seen. The lemmas about them have a
second half for the induction: no name that passes is among those seen before.

Classes are distinct, so names are (`nodup_names`). The converse does not hold. Two
names that differ in their underscores have one class, and a model with both of them
is refused.
-/

set_option autoImplicit false

namespace SchemaMigration

open SchemaMigration.Outcome

namespace Generator

/-- Names that pass the check of classes have distinct classes, and none of them was seen
before. -/
theorem nodup_of_checkClasses {seen : List (String × String)} {names : List String}
    (h : checkClasses seen names = .ok ()) :
    (names.map className).Nodup ∧ ∀ name ∈ names, className name ∉ seen.map Prod.fst := by
  induction names generalizing seen with
  | nil => simp
  | cons name rest ih =>
    unfold checkClasses at h
    simp only at h
    split at h
    · cases h
    · next hnew =>
      -- The rest was checked with the class of `name` among those seen.
      obtain ⟨hrest, hseen⟩ := ih h
      simp only [List.map_cons, List.mem_cons, not_or] at hseen
      refine ⟨?_, ?_⟩
      · rw [List.map_cons, List.nodup_cons]
        refine ⟨fun hmem => ?_, hrest⟩
        obtain ⟨other, hother, hclass⟩ := List.mem_map.1 hmem
        exact (hseen other hother).1 hclass
      · intro other hother
        rcases List.mem_cons.1 hother with rfl | hother
        · intro hmem
          obtain ⟨entry, hentry, hclass⟩ := List.mem_map.1 hmem
          have := (List.lookup_eq_none_iff.1 hnew) entry hentry
          simp [hclass] at this
        · exact (hseen other hother).2

/-- Names with distinct classes that were not seen before pass the check of classes. -/
theorem checkClasses_eq_ok {seen : List (String × String)} {names : List String}
    (hnodup : (names.map className).Nodup)
    (hnew : ∀ name ∈ names, className name ∉ seen.map Prod.fst) :
    checkClasses seen names = .ok () := by
  induction names generalizing seen with
  | nil => rfl
  | cons name rest ih =>
    rw [List.map_cons, List.nodup_cons] at hnodup
    have hnone : seen.lookup (className name) = none := by
      rw [List.lookup_eq_none_iff]
      intro entry hentry
      rw [bne_iff_ne]
      exact fun heq => hnew name List.mem_cons_self (heq ▸ List.mem_map_of_mem hentry)
    rw [checkClasses, hnone]
    refine ih hnodup.2 fun other hother => ?_
    rw [List.map_cons, List.mem_cons, not_or]
    exact ⟨fun heq => hnodup.1 (List.mem_map.2 ⟨other, hother, heq⟩),
      hnew other (List.mem_cons_of_mem _ hother)⟩

/-- Settings and a schema pass the check when each of them is in order and no two migrations have
one class. -/
theorem check_eq_ok_iff {config : Config} {model : Model} {warnings : List String} :
    check config model = .ok warnings ↔
      config.validate = .ok () ∧ model.validate config.strictness = .ok warnings ∧
        ((migrationNames config model).map className).Nodup := by
  constructor
  · intro h
    obtain ⟨_, hconfig, h⟩ := bind_eq_ok_iff.1 h
    obtain ⟨found, hmodel, h⟩ := bind_eq_ok_iff.1 h
    obtain ⟨_, hclasses, hfound⟩ := bind_eq_ok_iff.1 h
    obtain rfl : found = warnings := Except.ok.inj hfound
    exact ⟨hconfig, hmodel, (nodup_of_checkClasses hclasses).1⟩
  · rintro ⟨hconfig, hmodel, hclasses⟩
    rw [check, hconfig, ok_bind, hmodel, ok_bind, checkClasses_eq_ok hclasses (by simp), ok_bind]
    rfl

/-- What a run can rely on when settings and schema have passed the check. -/
structure Accepted (config : Config) (model : Model) : Prop where
  one_le_step : 1 ≤ config.stepSeconds.toInt
  columns_of_mem : ∀ table ∈ model.tables, ∃ columns,
    model.columnsFor table = .ok columns ∧ (columns.map (·.name)).Nodup
  nodup_classes : ((migrationNames config model).map className).Nodup

/-- Settings are in order when each of them is. -/
theorem validate_eq_ok_iff {config : Config} :
    config.validate = .ok () ↔
      Config.isExtension config.extension = true ∧ Text.isName config.relationsName = true ∧
        1 ≤ config.stepSeconds.toInt := by
  have hstep : config.stepSeconds < 1 ↔ ¬ 1 ≤ config.stepSeconds.toInt := by
    have hone : (1 : Int64).toInt = 1 := rfl
    rw [Int64.lt_iff_toInt_lt, hone, Int.not_le]
  unfold Config.validate
  by_cases hextension : Config.isExtension config.extension = true
  · by_cases hname : Text.isName config.relationsName = true
    · by_cases hpos : 1 ≤ config.stepSeconds.toInt
      · simp [hextension, hname, hstep, hpos]
      · simp [hextension, hname, hstep, hpos]
    · simp [hextension, hname]
  · simp [hextension]

/-- Names that differ in more than case and underscores have distinct classes. -/
theorem nodup_className_of_folded {names : List String}
    (hnames : ∀ name ∈ names, Text.isName name = true)
    (h : (names.map fun name => Text.foldCase (Text.withoutUnderscores name)).Nodup) :
    (names.map className).Nodup := by
  rw [List.Nodup, List.pairwise_map] at h ⊢
  exact h.imp_of_mem fun hname hother hapart hclass =>
    hapart (foldCase_of_className_eq (hnames _ hname) (hnames _ hother) hclass)

/-- In settings and a schema that are in order, tables and relations are called by names. -/
theorem isName_of_mem_names {config : Config} {model : Model} {warnings : List String}
    (hconfig : config.validate = .ok ())
    (hmodel : model.validate config.strictness = .ok warnings) :
    ∀ name ∈ model.tables.map (·.name) ++ [config.relationsName], Text.isName name = true := by
  intro name hname
  rcases List.mem_append.1 hname with hname | hname
  · obtain ⟨table, htable, rfl⟩ := List.mem_map.1 hname
    exact Text.isName_iff.2 (Model.sound_of_validate hmodel table htable).spellsName
  · obtain rfl := List.mem_singleton.1 hname
    exact (validate_eq_ok_iff.1 hconfig).2.1

theorem isName_of_mem_migrationNames {config : Config} {model : Model} {warnings : List String}
    (hconfig : config.validate = .ok ())
    (hmodel : model.validate config.strictness = .ok warnings) :
    ∀ name ∈ migrationNames config model, Text.isName name = true := by
  intro name hname
  refine isName_of_mem_names hconfig hmodel name ?_
  unfold migrationNames at hname
  split at hname
  · exact hname
  · rw [List.append_nil] at hname
    exact List.mem_append_left _ hname

/-- Settings and a schema that are in order pass the check when the names differ in more than case
and underscores. Classes are looked up in tables of letters, and names are compared without. -/
theorem check_eq_ok_of_folded {config : Config} {model : Model} {warnings : List String}
    (hconfig : config.validate = .ok ()) (hmodel : model.validate config.strictness = .ok warnings)
    (hnames : ((migrationNames config model).map fun name =>
      Text.foldCase (Text.withoutUnderscores name)).Nodup) :
    check config model = .ok warnings := by
  exact check_eq_ok_iff.2 ⟨hconfig, hmodel,
    nodup_className_of_folded (isName_of_mem_migrationNames hconfig hmodel) hnames⟩

theorem one_le_step_of_validate {config : Config} (h : config.validate = .ok ()) :
    1 ≤ config.stepSeconds.toInt :=
  (validate_eq_ok_iff.1 h).2.2

theorem columns_of_validate {model : Model} {strictness : Strictness} {warnings : List String}
    (h : model.validate strictness = .ok warnings) {table : Table} (htable : table ∈ model.tables) :
    ∃ columns, model.columnsFor table = .ok columns ∧ (columns.map (·.name)).Nodup := by
  have hsound := Model.sound_of_validate h table htable
  exact ⟨_, Model.columnsFor_of_sound hsound, hsound.namedApart.2⟩

theorem accepted_of_check {config : Config} {model : Model} {warnings : List String}
    (h : check config model = .ok warnings) : Accepted config model := by
  obtain ⟨hconfig, hmodel, hclasses⟩ := check_eq_ok_iff.1 h
  exact {
    one_le_step := one_le_step_of_validate hconfig
    columns_of_mem := fun table htable => columns_of_validate hmodel htable
    nodup_classes := hclasses }

namespace Accepted

variable {config : Config} {model : Model}

/-- Distinct classes come from distinct names. -/
theorem nodup_names (h : Accepted config model) : (migrationNames config model).Nodup :=
  List.Pairwise.of_map className (fun _ _ hne heq => hne (congrArg className heq)) h.nodup_classes

/-- Tables have distinct names. -/
theorem nodup_tables (h : Accepted config model) : (model.tables.map (·.name)).Nodup :=
  (List.nodup_append.1 h.nodup_names).1

theorem columnsFor_eq (h : Accepted config model) {table : Table} (htable : table ∈ model.tables) :
    model.columnsFor table = .ok (model.columnsOf table) := by
  obtain ⟨columns, hcolumns, -⟩ := h.columns_of_mem table htable
  rw [Model.columnsOf_of_columnsFor hcolumns, hcolumns]

theorem nodup_columnsOf (h : Accepted config model) {table : Table}
    (htable : table ∈ model.tables) : ((model.columnsOf table).map (·.name)).Nodup := by
  obtain ⟨columns, hcolumns, hnodup⟩ := h.columns_of_mem table htable
  rwa [Model.columnsOf_of_columnsFor hcolumns]

end Accepted

end Generator

end SchemaMigration
