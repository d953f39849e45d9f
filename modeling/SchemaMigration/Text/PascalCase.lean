import SchemaMigration.Text.Alphanumeric
import SchemaMigration.Text.Case

/-!
# `SchemaMigration.Text.PascalCase`: words of a name, each capitalised

A name is cut into words at every character that is neither a letter nor a
digit, between a lower-case and an upper-case letter (`userRoles`), and before
the last capital of a run of capitals that goes on in lower case (`HTTPServer`).
Each word then gets a capital and a rest of small letters, in which a sigma at
the end of the word has its final form.
-/

set_option autoImplicit false

namespace SchemaMigration.Text.PascalCase

/-- The case of the letters read so far in a word. Digits do not change it. -/
inductive WordCase where
  | undecided
  | lower
  | upper
  deriving DecidableEq, Repr

/-- The case of a word that goes on with `c`. -/
def WordCase.after (seen : WordCase) (c : Char) : WordCase :=
  if isSmall c then .lower else if isCapital c then .upper else seen

/-- Cuts a run of word characters into words. The word in progress is `word`, its last
character first, and `seen` is the case of its letters. -/
def splitRun (seen : WordCase) (word : List Char) : List Char → List (List Char)
  | [] => []
  | [c] => [(c :: word).reverse]
  | c :: next :: rest =>
    -- A word ends behind `c` in `userRoles`, and in front of `c` in `HTTPServer`.
    if seen.after c = .lower ∧ isCapital next then
      (c :: word).reverse :: splitRun .undecided [] (next :: rest)
    else if seen = .upper ∧ isCapital c ∧ isSmall next then
      word.reverse :: splitRun .undecided [c] (next :: rest)
    else splitRun (seen.after c) (c :: word) (next :: rest)

/-- The runs of word characters of a text, from a run in progress `run`. -/
def runs (run : List Char) : List Char → List (List Char)
  | [] => [run.reverse]
  | c :: rest =>
    if isAlphanumeric c then runs (c :: run) rest else run.reverse :: runs [] rest

/-- The words of a text. -/
def words (text : List Char) : List (List Char) :=
  (runs [] text).flatMap (splitRun .undecided [])

/-- The small form of what follows the first letter of a word. -/
def smallRest : List Char → List Char
  | [] => []
  | [c] => if c = 'Σ' then ['ς'] else smallOf c
  | c :: rest => smallOf c ++ smallRest rest

/-- A capital, then small letters. -/
def capitalize : List Char → List Char
  | [] => []
  | c :: rest => capitalOf c ++ smallRest rest

end PascalCase

/-- The words of a text, each capitalised, without anything between them. -/
def pascalCase (text : String) : String :=
  String.ofList ((PascalCase.words text.toList).flatMap PascalCase.capitalize)

end SchemaMigration.Text
