import SchemaMigration.Proofs.Generation.ClassConflicts

/-!
# `SchemaMigration.Proofs.Generation.ClassSpelling`: how the class of a migration is spelled

The class of a name has the letters and digits of the name between `Create` and `Table`, in their
order. Words are only found to give each of them a capital, so the case of letters is all that
changes, and all that is lost are the underscores. What is left is the name of a class in every
case. It starts with a letter, and no word of the language starts with `create`
(`isClassName_className`).

So names that are refused for their class have the same letters and digits (`className_spelled`).
-/

set_option autoImplicit false

namespace SchemaMigration

open SchemaMigration.Outcome
open SchemaMigration.Text (IsRecased SpellsName foldCase isName withoutUnderscores)

/-- The words that PHP does not take for the name of a class, in small letters. -/
def reservedWords : List String :=
  ["__halt_compiler", "abstract", "and", "array", "as", "break", "callable", "case", "catch",
    "class", "clone", "const", "continue", "declare", "default", "die", "do", "echo", "else",
    "elseif", "empty", "enddeclare", "endfor", "endforeach", "endif", "endswitch", "endwhile",
    "enum", "eval", "exit", "extends", "final", "finally", "fn", "for", "foreach", "function",
    "global", "goto", "if", "implements", "include", "include_once", "instanceof", "insteadof",
    "interface", "isset", "list", "match", "namespace", "new", "or", "print", "private",
    "protected", "public", "readonly", "require", "require_once", "return", "static", "switch",
    "throw", "trait", "try", "unset", "use", "var", "while", "xor", "yield", "self", "parent",
    "bool", "false", "float", "int", "iterable", "mixed", "never", "null", "object", "string",
    "true", "void", "__class__", "__dir__", "__file__", "__function__", "__line__", "__method__",
    "__namespace__", "__property__", "__trait__"]

/-- A text that PHP takes for the name of a class: a name that is no reserved word in any case. -/
def IsClassName (text : String) : Prop :=
  SpellsName text ∧ foldCase text ∉ reservedWords

/-- The class of a name is the name of a class. -/
theorem isClassName_className {name : String} (h : isName name = true) :
    IsClassName (className name) := by
  refine ⟨Text.isName_iff.1 (isName_className h), fun hmem => ?_⟩
  have hnone : ∀ word ∈ reservedWords, ¬ "create".toList <+: word.toList := by decide
  refine hnone _ hmem ?_
  rw [foldCase_className h, String.toList_append, String.toList_append, List.append_assoc]
  exact List.prefix_append _ _

namespace Generator

variable {config : Config} {model : Model} {class' : String} {clash : NameClash}

/-- A check that fails for a duplicate has found two names of one class, and names they are. -/
theorem exists_names_of_duplicate
    (h : check config model = .error (.duplicateArtifact class' clash)) :
    ∃ previous name, clash = .sameMigration previous name ∧
      [previous, name].Sublist (migrationNames config model) ∧
      (isName previous = true ∧ className previous = class') ∧
      isName name = true ∧ className name = class' := by
  obtain ⟨hconfig, ⟨warnings, hmodel⟩, hclasses⟩ := check_eq_duplicate_iff.1 h
  obtain ⟨previous, name, hnames, hclass, herror⟩ := checkClasses_eq_error hclasses
  obtain ⟨rfl, rfl⟩ := Error.duplicateArtifact.inj herror
  have hall := isName_of_mem_migrationNames hconfig hmodel
  exact ⟨previous, name, rfl, hnames, ⟨hall _ (hnames.subset (by simp)), hclass⟩,
    hall _ (hnames.subset (by simp)), rfl⟩

/-- The class of a name is `Create`, the letters and digits of the name in order, with the case of
letters changed and nothing else, and `Table`. It is the name of a class. Two names that a check
refuses for their class are the same without their underscores, when case is ignored. -/
theorem className_spelled (config : Config) (model : Model) :
    (∀ name, isName name = true →
      (∃ letters, className name = "Create" ++ letters ++ "Table" ∧
        List.Forall₂ IsRecased (name.toList.filter (· != '_')) letters.toList) ∧
      IsClassName (className name)) ∧
    ∀ class' clash, check config model = .error (.duplicateArtifact class' clash) →
      ∃ previous name, clash = .sameMigration previous name ∧
        [previous, name].Sublist (migrationNames config model) ∧
        className previous = class' ∧ className name = class' ∧
        foldCase (withoutUnderscores previous) = foldCase (withoutUnderscores name) := by
  refine ⟨fun name hname => ⟨⟨Text.pascalCase name, rfl, ?_⟩, isClassName_className hname⟩,
    fun class' clash h => ?_⟩
  · have hletters := Text.forall₂_pascalCase fun c hc => Text.isNamePart_of_isName hname hc
    rwa [withoutUnderscores, String.toList_ofList] at hletters
  · obtain ⟨previous, name, hclash, hnames, ⟨hprevious, hclass⟩, hname, hother⟩ :=
      exists_names_of_duplicate h
    exact ⟨previous, name, hclash, hnames, hclass, hother,
      foldCase_of_className_eq hprevious hname (hclass.trans hother.symm)⟩

/-- Two tables whose names have one class. -/
def respelledRoles : Model where
  tables := [{ id := .number 1, name := "user_roles" }, { id := .number 2, name := "user__roles" }]
  columns := .ofList [("1", []), ("2", [])]

theorem check_respelledRoles : check fixedTime respelledRoles = .error
    (.duplicateArtifact "CreateUserRolesTable" (.sameMigration "user_roles" "user__roles")) := by
  refine check_eq_duplicate_iff.2 ⟨rfl, ⟨[], eq_ok_of_toOption (by decide)⟩, ?_⟩
  have hnames : migrationNames fixedTime respelledRoles = ["user_roles", "user__roles"] := by
    decide
  have hfirst : className ("user" ++ "_" ++ "roles") = "CreateUserRolesTable" := by
    rw [className_join, Text.pascalCase_of_isLower rfl, Text.pascalCase_of_isLower rfl]
    rfl
  -- There is no word between two underscores.
  have hsecond : className ("user" ++ "_" ++ ("" ++ "_" ++ "roles")) = "CreateUserRolesTable" := by
    rw [className_join, Text.pascalCase_join, Text.pascalCase_of_isLower rfl,
      Text.pascalCase_of_isLower rfl, Text.pascalCase_of_isLower rfl]
    rfl
  rw [hnames, ← hsecond]
  exact checkClasses_pair (hfirst.trans hsecond.symm)

/-- The second name keeps its letters in its class, and the first name has the same ones. -/
theorem className_spelled_respelledRoles :
    isName "user__roles" = true ∧
      (∃ letters, className "user__roles" = "Create" ++ letters ++ "Table" ∧
        List.Forall₂ IsRecased "userroles".toList letters.toList) ∧
      IsClassName (className "user__roles") ∧
      check fixedTime respelledRoles = .error (.duplicateArtifact "CreateUserRolesTable"
        (.sameMigration "user_roles" "user__roles")) ∧
      foldCase (withoutUnderscores "user_roles") = foldCase (withoutUnderscores "user__roles") := by
  obtain ⟨hspelled, hrefused⟩ := className_spelled fixedTime respelledRoles
  obtain ⟨hletters, hclass⟩ := hspelled "user__roles" (by decide)
  obtain ⟨previous, name, hclash, -, -, -, hsame⟩ := hrefused _ _ check_respelledRoles
  obtain ⟨rfl, rfl⟩ := NameClash.sameMigration.inj hclash
  have hfilter : "user__roles".toList.filter (· != '_') = "userroles".toList := by decide
  rw [hfilter] at hletters
  exact ⟨by decide, hletters, hclass, check_respelledRoles, hsame⟩

end Generator

end SchemaMigration
