import Mathlib.Algebra.Ring.Int.Defs
import Mathlib.Algebra.Ring.Nat
import Mathlib.Data.List.Lex
import SchemaMigration.Text.Digits

/-!
# `SchemaMigration.Proofs.Text.ByteOrder`: texts in the order of their bytes

File names sort by the bytes of their UTF-8 form. `Before` is that order, and
`before_append_of_before` reads it off the front of two names when the fronts are
equally long. Padded numbers of one width sort like the numbers they spell
(`lex_padded_append`).
-/

set_option autoImplicit false

namespace SchemaMigration.Text

/-- The bytes of a text in UTF-8. -/
def bytes (text : String) : List UInt8 :=
  text.toUTF8.data.toList

/-- Whether a text stands before another one in the order of their bytes. -/
def Before (a b : String) : Prop :=
  List.Lex (· < ·) (bytes a) (bytes b)

@[simp] theorem bytes_append (a b : String) : bytes (a ++ b) = bytes a ++ bytes b := by
  simp [bytes, String.toByteArray_append]

/-- No text stands before itself. -/
theorem not_before_self (a : String) : ¬ Before a a :=
  List.lex_irrefl (fun b => UInt8.lt_irrefl b) (bytes a)

section Lex

variable {α : Type} {r : α → α → Prop} {a b x y : List α}

/-- The order of two equally long lists is not changed by what follows them. -/
theorem lex_append_of_lex (hlen : a.length = b.length) (h : List.Lex r a b) :
    List.Lex r (a ++ x) (b ++ y) := by
  induction h with
  | nil => simp at hlen
  | rel h => exact .rel h
  | cons _ ih => exact .cons (ih (by simpa using hlen))

end Lex

/-- Two texts with equally long fronts stand in the order of the fronts. -/
theorem before_append_of_before {a b : String} (hlen : (bytes a).length = (bytes b).length)
    (h : Before a b) (x y : String) : Before (a ++ x) (b ++ y) := by
  rw [Before, bytes_append, bytes_append]
  exact lex_append_of_lex hlen h

/-! ### ASCII texts -/

/-- The bytes of an ASCII text are those of its characters. -/
theorem bytes_ofList {text : List Char} (h : ∀ c ∈ text, c.toNat < 128) :
    bytes (String.ofList text) = text.map Char.toUInt8 := by
  induction text with
  | nil => simp [bytes]
  | cons c text ih =>
    have hsize : c.utf8Size = 1 := by
      rw [Char.utf8Size_eq_one_iff, UInt32.le_iff_toNat_le]
      exact Nat.le_of_lt_succ (h c (by simp))
    have htext := ih fun d hd => h d (by simp [hd])
    simp only [bytes, String.toUTF8_eq_toByteArray, String.toByteArray_ofList] at htext ⊢
    rw [List.utf8Encode_cons, List.utf8Encode_singleton, String.utf8EncodeChar_eq_singleton hsize]
    simp [htext]

/-- ASCII texts stand in the order of their characters. -/
theorem before_of_lex {xs ys : List Char} (hx : ∀ c ∈ xs, c.toNat < 128)
    (hy : ∀ c ∈ ys, c.toNat < 128) (h : List.Lex (· < ·) xs ys) :
    Before (String.ofList xs) (String.ofList ys) := by
  rw [Before, bytes_ofList hx, bytes_ofList hy]
  -- The induction is on the comparison: past the common characters, then at the first
  -- two that differ.
  induction h with
  | nil => exact .nil
  | @rel a as b bs hab =>
    refine .rel ?_
    have ha := hx a (by simp)
    have hb := hy b (by simp)
    rw [UInt8.lt_iff_toNat_lt]
    have : a.toNat < b.toNat := hab
    simp only [Char.toUInt8, UInt32.toNat_toUInt8]
    simp only [Char.toNat_val]
    omega
  | cons _ ih => exact .cons (ih (fun c hc => hx c (by simp [hc])) fun c hc => hy c (by simp [hc]))

/-! ### Numbers of one width -/

/-- Digits in front count by the number of digits behind them. -/
theorem digitsValue_cons (c : Char) (digits : List Char) :
    digitsValue (c :: digits) =
      (c.toNat - '0'.toNat) * 10 ^ digits.length + digitsValue digits := by
  rw [digitsValue, List.foldl_cons, foldl_digits, Nat.mul_zero, Nat.zero_add]
  rfl

/-- A digit spells a number below ten. -/
theorem toNat_of_isDigit {c : Char} (h : c.isDigit) :
    '0'.toNat ≤ c.toNat ∧ c.toNat < '0'.toNat + 10 := by
  simp only [Char.isDigit, Bool.and_eq_true, decide_eq_true_eq, UInt32.le_iff_toNat_le] at h
  have h0 : '0'.toNat = 48 := rfl
  exact ⟨h.1, Nat.lt_succ_of_le h.2⟩

/-- A run of digits spells a number that has no more digits. -/
theorem digitsValue_lt {digits : List Char} (h : ∀ c ∈ digits, c.isDigit) :
    digitsValue digits < 10 ^ digits.length := by
  induction digits with
  | nil => simp [digitsValue]
  | cons c digits ih =>
    have hrest := ih fun d hd => h d (by simp [hd])
    have hc := toNat_of_isDigit (h c (by simp))
    have hfront : (c.toNat - '0'.toNat) * 10 ^ digits.length ≤ 9 * 10 ^ digits.length :=
      Nat.mul_le_mul_right _ (by omega)
    rw [digitsValue_cons, List.length_cons, Nat.pow_succ]
    omega

/-- Equally long runs of digits stand in the order of the numbers that they spell. -/
theorem lex_of_digitsValue_lt {xs ys : List Char} (hx : ∀ c ∈ xs, c.isDigit)
    (hy : ∀ c ∈ ys, c.isDigit) (hlen : xs.length = ys.length)
    (h : digitsValue xs < digitsValue ys) : List.Lex (· < ·) xs ys := by
  induction xs generalizing ys with
  | nil =>
    obtain rfl : ys = [] := List.eq_nil_of_length_eq_zero hlen.symm
    exact absurd h (Nat.lt_irrefl _)
  | cons x xs ih =>
    obtain _ | ⟨y, ys⟩ := ys
    · simp at hlen
    have hrest : xs.length = ys.length := by simpa using hlen
    have hx0 := toNat_of_isDigit (hx x (by simp))
    have hy0 := toNat_of_isDigit (hy y (by simp))
    have hys : digitsValue ys < 10 ^ ys.length :=
      digitsValue_lt fun d hd => hy d (by simp [hd])
    rw [digitsValue_cons, digitsValue_cons, hrest] at h
    rcases Nat.lt_trichotomy x.toNat y.toNat with hxy | hxy | hxy
    · exact .rel hxy
    · -- Equal first digits carry the same weight, so the rests decide.
      obtain rfl : x = y := Char.toNat_inj.1 hxy
      exact .cons (ih (fun c hc => hx c (by simp [hc])) (fun c hc => hy c (by simp [hc])) hrest
        (by omega))
    · -- A larger first digit outweighs everything behind a smaller one.
      have hweight : (y.toNat - '0'.toNat + 1) * 10 ^ ys.length ≤
          (x.toNat - '0'.toNat) * 10 ^ ys.length :=
        Nat.mul_le_mul_right _ (by omega)
      rw [Nat.add_mul, Nat.one_mul] at hweight
      omega

/-- A padded number consists of digits. -/
theorem isDigit_of_mem_padded {width n : Nat} {c : Char} (h : c ∈ (padded width n).toList) :
    c.isDigit := by
  rw [padded, String.toList_ofList, List.mem_append] at h
  rcases h with h | h
  · rw [List.eq_of_mem_replicate h]
    rfl
  · exact Nat.isDigit_of_mem_toDigits (by decide) (by decide) h

/-- A padded number has its width, if that is enough for its digits. -/
theorem length_padded {width n : Nat} (hwidth : 0 < width) (h : n < 10 ^ width) :
    (padded width n).toList.length = width := by
  have := (Nat.length_toDigits_le_iff (by decide) hwidth).2 h
  simp [padded, String.toList_ofList]
  omega

/-- A padded number spells the number. -/
theorem digitsValue_padded (width n : Nat) : digitsValue (padded width n).toList = n := by
  have hzeros : ∀ k : Nat, digitsValue (List.replicate k '0') = 0 := by
    intro k
    induction k with
    | zero => rfl
    | succ k ih => simp [List.replicate_succ, digitsValue_cons, ih]
  rw [padded, String.toList_ofList, digitsValue_append, hzeros, Nat.zero_mul, Nat.zero_add]
  exact Nat.ofDigitChars_ten_toDigits

/-- Texts that start with padded numbers of one width stand in the order of the numbers, and
of the rests when the numbers are the same. -/
theorem lex_padded_append {width m n : Nat} {x y : List Char} (hwidth : 0 < width)
    (hm : m < 10 ^ width) (hn : n < 10 ^ width)
    (h : m < n ∨ m = n ∧ List.Lex (· < ·) x y) :
    List.Lex (· < ·) ((padded width m).toList ++ x) ((padded width n).toList ++ y) := by
  have hlen : (padded width m).toList.length = (padded width n).toList.length := by
    rw [length_padded hwidth hm, length_padded hwidth hn]
  rcases h with h | ⟨rfl, h⟩
  · -- Padded to one width, the numbers differ within it, and what follows does not count.
    refine lex_append_of_lex hlen (lex_of_digitsValue_lt ?_ ?_ hlen ?_)
    · exact fun c => isDigit_of_mem_padded
    · exact fun c => isDigit_of_mem_padded
    · rwa [digitsValue_padded, digitsValue_padded]
  · exact List.Lex.append_left _ h _

end SchemaMigration.Text
