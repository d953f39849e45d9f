import SchemaMigration.Proofs.Generation.ClassConflicts
import SchemaMigration.Proofs.Generation.Output
import SchemaMigration.Proofs.Text.WordLetters

/-!
# `SchemaMigration.Proofs.Generation.DeclaredClasses`: the classes of the migrations of a run

The class that a migration declares stands in its text, between the head of the file and a
blank (`Artifact.class?`). A check compares classes as texts, so the migrations of a run declare
different texts. A class that is looked up without regard to case is another matter. Such a
look-up tells two classes apart when their names still differ without underscores and without
regard to case, and no check asks for this (`declared_classes`).
-/

set_option autoImplicit false

namespace SchemaMigration

open SchemaMigration.Calendar
open SchemaMigration.Outcome
open SchemaMigration.Text (foldCase withoutUnderscores)

/-- The class that a migration declares: what stands behind the head of the file, up to a
blank. -/
def Artifact.class? (file : Artifact) : Option String :=
  (file.content.toList.dropPrefix? Stub.classOpening.toList).map fun rest =>
    String.ofList (rest.takeWhile (· != ' '))

/-- A name has no blank in its class. -/
theorem blank_not_mem_className {name : String} (h : Text.isName name = true) :
    ' ' ∉ (className name).toList :=
  fun hmem => absurd (Text.isNamePart_of_isName (isName_className h) hmem) (by decide)

/-- Behind the name of a class stands a blank. -/
theorem exists_toList_upOpening : ∃ rest, Stub.upOpening.toList = ' ' :: rest := by
  have hfirst : " extends Migration\n".toList = ' ' :: "extends Migration\n".toList := by
    decide
  have hsplit : Stub.upOpening.toList = " extends Migration\n".toList ++
      (Stub.linesText (Stub.headLines.drop 7)).toList := String.toList_append
  exact ⟨_, by rw [hsplit, hfirst, List.cons_append]⟩

/-- A migration for a name declares the class of the name. -/
theorem Artifact.MadeFor.class?_eq {extension name : String} {file : Artifact}
    (h : file.MadeFor extension name) (hname : Text.isName name = true) :
    file.class? = some (className name) := by
  obtain ⟨body, hcontent⟩ := h.content_eq
  obtain ⟨rest, hrest⟩ := exists_toList_upOpening
  have hclass : ∀ c ∈ (className name).toList, (c != ' ') = true := fun c hc =>
    bne_iff_ne.2 fun heq => blank_not_mem_className hname (heq ▸ hc)
  rw [class?, hcontent, String.toList_append, String.toList_append, String.toList_append, hrest,
    List.append_assoc, List.append_assoc, Text.dropPrefix?_append, Option.map_some,
    List.takeWhile_append_of_pos hclass, List.cons_append, List.takeWhile_cons_of_neg (by simp),
    List.append_nil, String.ofList_toList]

namespace Generator

variable {config : Config} {model : Model} {schema : Schema} {now : Moment} {output : Collection}
  {warnings : List String}

/-- Migrations for names declare their classes. -/
theorem map_class? {extension : String} {names : List String} {files : List Artifact}
    (h : List.Forall₂ (Artifact.MadeFor extension) names files)
    (hnames : ∀ name ∈ names, Text.isName name = true) :
    files.map Artifact.class? = names.map fun name => some (className name) := by
  induction h with
  | nil => rfl
  | cons hfirst _ ih =>
    rw [List.forall_mem_cons] at hnames
    rw [List.map_cons, List.map_cons, hfirst.class?_eq hnames.1, ih hnames.2]

/-- The classes of a run in memory are those of its names. -/
theorem classes_of_generate (h : generate config now schema = .ok output) :
    (∀ name ∈ emittedNames config schema.toModel, Text.isName name = true) ∧
      output.migrations.map Artifact.class? =
        (emittedNames config schema.toModel).map fun name => some (className name) := by
  obtain ⟨hcheck, -⟩ := generate_eq_ok_iff.1 h
  have hnames := isName_of_mem_emittedNames hcheck
  exact ⟨hnames, map_class? (emitted_of_generate h) hnames⟩

/-- Without regard to case the classes are the letters and digits of the names. -/
theorem folded_classes_of_generate (h : generate config now schema = .ok output) :
    output.migrations.map (fun file => file.class?.map foldCase) =
      ((emittedNames config schema.toModel).map fun name => foldCase (withoutUnderscores name)).map
        fun letters => some ("create" ++ letters ++ "table") := by
  obtain ⟨hnames, hclasses⟩ := classes_of_generate h
  have hfold := congrArg (List.map (Option.map foldCase)) hclasses
  rw [List.map_map, List.map_map] at hfold
  rw [List.map_map]
  refine hfold.trans (List.map_congr_left fun name hname => ?_)
  exact congrArg some (foldCase_className (hnames name hname))

/-- The names of a run have distinct classes when those that a check expects have. -/
theorem Accepted.nodup_emitted_classes (h : Accepted config model) :
    ((emittedNames config model).map className).Nodup := by
  have hclasses := h.nodup_classes
  rw [migrationNames_eq, List.map_append] at hclasses
  exact (List.nodup_append.1 hclasses).1

/-- The migrations of a run declare the classes of its names, and these are distinct. They are
distinct without regard to case when the names are, without their underscores. -/
theorem declared_classes (h : generate config now schema = .ok output) :
    output.migrations.map Artifact.class? =
        (emittedNames config schema.toModel).map (fun name => some (className name)) ∧
      (output.migrations.map Artifact.class?).Nodup ∧
      ((output.migrations.map fun file => file.class?.map foldCase).Nodup ↔
        ((emittedNames config schema.toModel).map fun name =>
          foldCase (withoutUnderscores name)).Nodup) := by
  obtain ⟨hcheck, -⟩ := generate_eq_ok_iff.1 h
  obtain ⟨-, hclasses⟩ := classes_of_generate h
  refine ⟨hclasses, ?_, ?_⟩
  · have hnodup := (accepted_of_check hcheck).nodup_emitted_classes
    rw [hclasses, ← Function.comp_def some, ← List.map_map]
    exact (List.nodup_map_iff fun _ _ => Option.some.inj).2 hnodup
  · rw [folded_classes_of_generate h]
    refine List.nodup_map_iff fun letters other hsame => ?_
    rw [Option.some.injEq, String.append_left_inj, String.append_right_inj] at hsame
    exact hsame

/-- Two tables and the relations of both, without an underscore in any of their names. -/
theorem declared_classes_sharedGroup :
    ∃ output, generate fixedTime firstMoment sharedSchema = .ok output ∧
      output.migrations.map Artifact.class? =
        [some "CreatePostsTable", some "CreatePagesTable", some "CreateLinksTable"] ∧
      (output.migrations.map fun file => file.class?.map foldCase).Nodup := by
  obtain ⟨output, houtput⟩ := exists_generate_sharedGroup
  obtain ⟨hclasses, -, hfolded⟩ := declared_classes houtput
  have hnames : emittedNames fixedTime sharedSchema.toModel = ["posts", "pages", "links"] := by
    decide
  have hposts : className "posts" = "CreatePostsTable" := className_of_isLower rfl
  have hpages : className "pages" = "CreatePagesTable" := className_of_isLower rfl
  have hlinks : className "links" = "CreateLinksTable" := className_of_isLower rfl
  rw [hnames] at hclasses hfolded
  refine ⟨output, houtput, ?_, hfolded.2 (by decide)⟩
  rw [hclasses, List.map_cons, List.map_cons, List.map_cons, hposts, hpages, hlinks]
  rfl

/-- Two tables whose names differ by an underscore. -/
def rolesTwice : Schema where
  tables := [{ id := .number 1, name := "user_roles" }, { id := .number 2, name := "userroles" }]
  columns := .ofList [("1", []), ("2", [])]

theorem check_rolesTwice : check fixedTime rolesTwice.toModel = .ok [] := by
  have hnames : migrationNames fixedTime rolesTwice.toModel =
      ["user" ++ "_" ++ "roles", "userroles"] := by decide
  have hjoined : className ("user" ++ "_" ++ "roles") = "CreateUserRolesTable" := by
    rw [className_join, Text.pascalCase_of_isLower rfl,
      Text.pascalCase_of_isLower rfl]
    rfl
  have hword : className "userroles" = "CreateUserrolesTable" :=
    className_of_isLower rfl
  refine check_eq_ok_iff.2 ⟨rfl, eq_ok_of_toOption (by decide), ?_⟩
  rw [hnames, List.map_cons, List.map_cons, List.map_nil, hjoined, hword]
  decide

/-- The schema is accepted, and the classes of its two migrations differ in the case of a letter
only. -/
theorem not_nodup_folded_rolesTwice :
    check fixedTime rolesTwice.toModel = .ok [] ∧
      ∃ output, generate fixedTime firstMoment rolesTwice = .ok output ∧
        output.migrations.map (fun file => file.class?.map foldCase) =
          [some "createuserrolestable", some "createuserrolestable"] := by
  obtain ⟨output, houtput⟩ := exists_generate_fixedTime check_rolesTwice (by decide)
  refine ⟨check_rolesTwice, output, houtput, ?_⟩
  rw [folded_classes_of_generate houtput]
  decide

end Generator

end SchemaMigration
