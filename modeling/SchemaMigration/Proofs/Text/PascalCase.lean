import SchemaMigration.Migration.ClassName

/-!
# `SchemaMigration.Proofs.Text.PascalCase`: names that are joined by an underscore

An underscore is neither a letter nor a digit, so no word of a name goes on behind one. The
capitalised words of two names joined by an underscore are therefore those of the one
followed by those of the other (`pascalCase_join`), and an underscore leaves no trace in the
class of a migration.
-/

set_option autoImplicit false

namespace SchemaMigration

namespace Text

/-- The table of letters and digits has none of ASCII. -/
theorem inRanges_alphanumeric_ascii {n : Nat} (h : n < 128) :
    inRanges alphanumericRanges n = false := by
  have hlow : alphanumericRanges.toList.all (fun range => decide (128 ≤ range.1)) = true := by
    decide +kernel
  rw [inRanges, ← Array.any_toList, List.any_eq_false]
  intro range hrange
  have := of_decide_eq_true (List.all_eq_true.1 hlow range hrange)
  simp only [Bool.and_eq_true, decide_eq_true_eq]
  omega

theorem isAlphanumeric_ascii {c : Char} (h : c.toNat < 128) : isAlphanumeric c = c.isAlphanum := by
  rw [isAlphanumeric, inRanges_alphanumeric_ascii h, Bool.or_false]

theorem isAlphanumeric_underscore : isAlphanumeric '_' = false :=
  isAlphanumeric_ascii (by decide)

namespace PascalCase

/-- A run ends in front of a character that is neither a letter nor a digit. -/
theorem runs_append {c : Char} (h : isAlphanumeric c = false) (run front back : List Char) :
    runs run (front ++ c :: back) = runs run front ++ runs [] back := by
  induction front generalizing run with
  | nil => simp [runs, h]
  | cons d front ih =>
    rw [List.cons_append, runs, runs]
    split
    · exact ih (d :: run)
    · rw [ih, List.cons_append]

end PascalCase

/-- The words of names joined by an underscore are those of the names. -/
theorem pascalCase_join (front back : String) :
    pascalCase (front ++ "_" ++ back) = pascalCase front ++ pascalCase back := by
  have hmark : "_".toList = ['_'] := rfl
  rw [pascalCase, PascalCase.words, String.toList_append, String.toList_append, hmark,
    List.append_assoc, List.singleton_append, PascalCase.runs_append isAlphanumeric_underscore,
    List.flatMap_append, List.flatMap_append, String.ofList_append]
  rfl

end Text

/-- The class of names joined by an underscore has their words. -/
theorem className_join (front back : String) :
    className (front ++ "_" ++ back) =
      "Create" ++ (Text.pascalCase front ++ Text.pascalCase back) ++ "Table" := by
  rw [className, Text.pascalCase_join]

end SchemaMigration
