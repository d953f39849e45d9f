/-!
# `SchemaMigration.Text.Digits`: runs of decimal digits

`digitsValue` takes a run digit by digit. `longDigitsValue` takes a long run in
halves, and `longDigitsValue_eq` says that the number is the same.
-/

set_option autoImplicit false

namespace SchemaMigration.Text

/-- The number that a run of decimal digits spells. -/
def digitsValue (digits : List Char) : Nat :=
  digits.foldl (fun n c => 10 * n + (c.toNat - '0'.toNat)) 0

/-- The number that a run of decimal digits spells, with the run cut in two `depth` times over. -/
def digitsValueInParts : Nat → List Char → Nat
  | 0, digits => digitsValue digits
  | depth + 1, digits =>
    let half := digits.length / 2
    digitsValueInParts depth (digits.take half) * Nat.pow 10 (digits.length - half) +
      digitsValueInParts depth (digits.drop half)

/-- The number that a long run of decimal digits spells. One product of long numbers is
cheaper than a long number times ten for every digit. -/
def longDigitsValue (digits : List Char) : Nat :=
  digitsValueInParts (digits.length / 256).log2 digits

/-- Digits in front count by the number of digits behind them. -/
theorem foldl_digits (digits : List Char) (n : Nat) :
    digits.foldl (fun n c => 10 * n + (c.toNat - '0'.toNat)) n =
      n * Nat.pow 10 digits.length + digitsValue digits := by
  induction digits generalizing n with
  | nil => simp [digitsValue]
  | cons c digits ih =>
    have first := ih (10 * n + (c.toNat - '0'.toNat))
    have second := ih (10 * 0 + (c.toNat - '0'.toNat))
    simp only [digitsValue, List.foldl_cons, List.length_cons] at first second ⊢
    rw [first, second, show Nat.pow 10 (digits.length + 1) = Nat.pow 10 digits.length * 10 from rfl,
      Nat.add_mul]
    simp only [Nat.mul_zero, Nat.zero_add]
    rw [Nat.mul_comm 10 n, Nat.mul_assoc, Nat.mul_comm 10 (Nat.pow 10 _)]
    omega

/-- The value of two runs, one behind the other. -/
theorem digitsValue_append (front back : List Char) :
    digitsValue (front ++ back) =
      digitsValue front * Nat.pow 10 back.length + digitsValue back := by
  rw [digitsValue, List.foldl_append]
  exact foldl_digits back _

/-- Cutting a run does not change the number. -/
theorem digitsValueInParts_eq (depth : Nat) (digits : List Char) :
    digitsValueInParts depth digits = digitsValue digits := by
  induction depth generalizing digits with
  | zero => rfl
  | succ depth ih =>
    have parts := digitsValue_append (digits.take (digits.length / 2))
      (digits.drop (digits.length / 2))
    rw [List.take_append_drop, List.length_drop] at parts
    simp only [digitsValueInParts, ih]
    exact parts.symm

/-- A long run spells the same number. -/
theorem longDigitsValue_eq (digits : List Char) : longDigitsValue digits = digitsValue digits :=
  digitsValueInParts_eq _ digits

/-- The digits at the front of a text and what follows them. -/
def spanDigits (text : List Char) : List Char × List Char :=
  (text.takeWhile Char.isDigit, text.dropWhile Char.isDigit)

/-- A run of digits does not go on into a text that begins with none. -/
theorem spanDigits_append {rest : List Char} (h : ∀ c ∈ rest.head?, c.isDigit = false)
    (text : List Char) :
    spanDigits (text ++ rest) = ((spanDigits text).1, (spanDigits text).2 ++ rest) := by
  induction text with
  | nil =>
    cases rest with
    | nil => rfl
    | cons c tail => simp [spanDigits, h c rfl]
  | cons c text ih =>
    simp only [spanDigits, Prod.mk.injEq] at ih
    by_cases hc : c.isDigit
    · simp [spanDigits, hc, ih.1, ih.2]
    · simp [spanDigits, hc]

/-- A text of digits is one run. -/
theorem spanDigits_of_isDigit {digits : List Char} (h : ∀ c ∈ digits, c.isDigit) :
    spanDigits digits = (digits, []) := by
  induction digits with
  | nil => rfl
  | cons c digits ih =>
    rw [List.forall_mem_cons] at h
    have hrest := ih h.2
    simp only [spanDigits, Prod.mk.injEq] at hrest
    simp [spanDigits, h.1, hrest.1, hrest.2]

/-- What follows a run is no longer than the text. -/
theorem length_dropWhile_le {α : Type} (p : α → Bool) (l : List α) :
    (l.dropWhile p).length ≤ l.length := by
  induction l with
  | nil => simp
  | cons a l ih => by_cases h : p a <;> simp [h]; omega

/-- The digits of a number, with zeros in front up to a width. -/
def padded (width n : Nat) : String :=
  let digits := Nat.toDigits 10 n
  String.ofList (List.replicate (width - digits.length) '0' ++ digits)

end SchemaMigration.Text
