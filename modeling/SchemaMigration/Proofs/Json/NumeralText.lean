import SchemaMigration.Json.Numeral
import SchemaMigration.Proofs.Text.ByteOrder
import SchemaMigration.Proofs.Text.FrontReading

/-!
# `SchemaMigration.Proofs.Json.NumeralText`: a written number is read back

A numeral is read as far as it goes. In a document it is followed by a comma, a
bracket or a line break, none of which goes on with it (`EndsNumeral`). So a numeral
that is read to the end of its own text is read the same way in front of such a
character (`read_append`).

A written integer is read to its end, and as the same integer (`read_toString`). It has
no zero in front (`exists_toDigits_eq`), because a shorter run would do for its digits.
-/

set_option autoImplicit false

namespace SchemaMigration.Json.Numeral

open SchemaMigration.Text (digitsValue longDigitsValue_eq spanDigits spanDigits_append
  spanDigits_of_isDigit toNat_of_isDigit digitsValue_cons digitsValue_lt isDigit_of_mem_toDigits
  toList_toString_ofNat toList_toString_negSucc)

variable {rest text : List Char}

/-! ### What stands behind a numeral -/

/-- Whether a numeral can go on with a character behind its digits. -/
def goesOn (c : Char) : Bool :=
  c.isDigit || c == '.' || c == 'e' || c == 'E'

/-- The text does not go on with a numeral in front of it. -/
def EndsNumeral (rest : List Char) : Prop :=
  ∀ c ∈ rest.head?, goesOn c = false

theorem endsNumeral_nil : EndsNumeral [] := nofun

theorem endsNumeral_cons {c : Char} (h : goesOn c = false) (rest : List Char) :
    EndsNumeral (c :: rest) := by
  intro d hd
  obtain rfl := Option.some.inj hd
  exact h

theorem EndsNumeral.isDigit_eq_false (h : EndsNumeral rest) :
    ∀ c ∈ rest.head?, c.isDigit = false := by
  intro c hc
  have := h c hc
  simp only [goesOn, Bool.or_eq_false_iff] at this
  exact this.1.1.1

theorem readWhole_append (h : EndsNumeral rest) {digits after : List Char}
    (hread : readWhole text = some (digits, after)) :
    readWhole (text ++ rest) = some (digits, after ++ rest) := by
  cases text with
  | nil => cases hread
  | cons c tail =>
    rw [List.cons_append]
    simp only [readWhole] at hread ⊢
    split at hread
    · next hzero =>
      -- A zero stands alone. What is behind it is no digit, be it of `tail` or of `rest`.
      rw [if_pos hzero]
      cases tail with
      | nil =>
        obtain ⟨rfl, rfl⟩ := Prod.mk.inj (Option.some.inj hread)
        cases rest with
        | nil => rfl
        | cons d behind => simp [h.isDigit_eq_false d rfl]
      | cons d behind =>
        dsimp only [List.cons_append] at hread ⊢
        split at hread
        · cases hread
        · next hd =>
          obtain ⟨rfl, rfl⟩ := Prod.mk.inj (Option.some.inj hread)
          rw [if_neg hd]
          rfl
    · next hzero =>
      rw [if_neg hzero]
      split at hread
      · next hc =>
        obtain ⟨rfl, rfl⟩ := Prod.mk.inj (Option.some.inj hread)
        rw [if_pos hc, spanDigits_append h.isDigit_eq_false]
      · cases hread

theorem readFraction_append (h : EndsNumeral rest) {digits after : List Char}
    (hread : readFraction text = some (digits, after)) :
    readFraction (text ++ rest) = some (digits, after ++ rest) := by
  unfold readFraction at hread
  split at hread
  · next tail =>
    split at hread
    · cases hread
    · next hsome =>
      obtain ⟨rfl, rfl⟩ := Prod.mk.inj (Option.some.inj hread)
      rw [List.cons_append, readFraction, spanDigits_append h.isDigit_eq_false, if_neg hsome]
      rfl
  · next hpoint =>
    obtain ⟨rfl, rfl⟩ := Prod.mk.inj (Option.some.inj hread)
    rw [readFraction]
    -- A point can come from neither of the two parts.
    intro tail heq
    cases text with
    | nil =>
      rw [List.nil_append] at heq
      subst heq
      have := h '.' rfl
      simp [goesOn] at this
    | cons c behind =>
      rw [List.cons_append] at heq
      exact hpoint behind (by rw [(List.cons.inj heq).1])

theorem readPower_append (h : EndsNumeral rest) {negative : Bool} {power : Option Int}
    {after : List Char} (hread : readPower negative text = some (power, after)) :
    readPower negative (text ++ rest) = some (power, after ++ rest) := by
  unfold readPower at hread ⊢
  rw [spanDigits_append h.isDigit_eq_false]
  split at hread
  · cases hread
  · next hsome =>
    obtain ⟨rfl, rfl⟩ := Prod.mk.inj (Option.some.inj hread)
    rw [if_neg hsome]

theorem readExponent_append (h : EndsNumeral rest) {power : Option Int} {after : List Char}
    (hread : readExponent text = some (power, after)) :
    readExponent (text ++ rest) = some (power, after ++ rest) := by
  cases text with
  | nil =>
    -- There is no exponent, and `rest` must not be taken for one.
    obtain ⟨rfl, rfl⟩ := Prod.mk.inj (Option.some.inj hread)
    cases rest with
    | nil => rfl
    | cons c tail =>
      have hc := h c rfl
      simp only [goesOn, Bool.or_eq_false_iff, beq_eq_false_iff_ne] at hc
      simp [readExponent, hc.1.2, hc.2]
  | cons c tail =>
    rw [List.cons_append]
    simp only [readExponent] at hread ⊢
    split at hread
    · next he =>
      rw [if_pos he]
      split at hread
      · exact readPower_append h hread
      · exact readPower_append h hread
      · next hminus hplus =>
        -- Without a sign there are digits, and the text does not end before them.
        cases tail with
        | nil => cases hread
        | cons d behind =>
          rw [List.cons_append]
          split
          · next heq => exact (hminus behind (by rw [(List.cons.inj heq).1])).elim
          · next heq => exact (hplus behind (by rw [(List.cons.inj heq).1])).elim
          · exact readPower_append h hread
    · next he =>
      obtain ⟨rfl, rfl⟩ := Prod.mk.inj (Option.some.inj hread)
      rw [if_neg he]
      rfl

theorem readUnsigned_append (h : EndsNumeral rest) {negative : Bool} {n : Numeral}
    {after : List Char} (hread : readUnsigned negative text = some (n, after)) :
    readUnsigned negative (text ++ rest) = some (n, after ++ rest) := by
  simp only [readUnsigned, Option.bind_eq_bind, Option.bind_eq_some_iff, Option.pure_def,
    Option.some.injEq, Prod.mk.injEq] at hread
  -- Each part starts where the last one has ended, so `rest` stays behind all of them.
  obtain ⟨⟨whole, text₁⟩, hwhole, ⟨fraction, text₂⟩, hfraction, ⟨exponent, text₃⟩, hexponent, rfl,
    rfl⟩ := hread
  rw [readUnsigned, readWhole_append h hwhole]
  simp only [Option.bind_eq_bind, Option.bind_some, readFraction_append h hfraction,
    readExponent_append h hexponent]
  rfl

/-- A numeral is read the same way in front of a text that does not go on with it. -/
theorem read_append (h : EndsNumeral rest) {n : Numeral} {after : List Char}
    (hread : read text = some (n, after)) :
    read (text ++ rest) = some (n, after ++ rest) := by
  unfold read at hread
  split at hread
  · exact readUnsigned_append h hread
  · next hminus =>
    cases text with
    | nil => cases hread
    | cons c tail =>
      rw [List.cons_append, read, ← List.cons_append]
      · exact readUnsigned_append h hread
      · intro behind heq
        exact hminus tail (by rw [(List.cons.inj heq).1])

/-! ### Integers -/

/-- The digits of a number are a zero, or start with another digit. -/
theorem exists_toDigits_eq (n : Nat) :
    ∃ c digits, Nat.toDigits 10 n = c :: digits ∧ c.isDigit ∧ (∀ d ∈ digits, d.isDigit) ∧
      (c = '0' → digits = []) := by
  have hdigits : ∀ d ∈ Nat.toDigits 10 n, d.isDigit := fun _ => isDigit_of_mem_toDigits
  have hvalue : digitsValue (Nat.toDigits 10 n) = n := Nat.ofDigitChars_ten_toDigits
  cases hrun : Nat.toDigits 10 n with
  | nil => exact absurd hrun Nat.toDigits_ne_nil
  | cons c digits =>
    rw [hrun] at hdigits hvalue
    obtain ⟨hc, hrest⟩ := List.forall_mem_cons.1 hdigits
    refine ⟨c, digits, rfl, hc, hrest, ?_⟩
    rintro rfl
    -- Without the zero in front the run would be shorter and spell the same number.
    by_contra hsome
    have hshort : n < 10 ^ digits.length := by
      rw [← hvalue, digitsValue_cons, Nat.sub_self, Nat.zero_mul, Nat.zero_add]
      exact digitsValue_lt hrest
    have hlength := (Nat.length_toDigits_le_iff (by decide) (List.length_pos_iff.2 hsome)).2 hshort
    rw [hrun, List.length_cons] at hlength
    omega

/-- The digits of a number are read to their end. -/
theorem readUnsigned_toDigits (negative : Bool) (n : Nat) :
    readUnsigned negative (Nat.toDigits 10 n) =
      some (ofParts negative (Nat.toDigits 10 n) [] none, []) := by
  obtain ⟨c, digits, hrun, hc, hrest, hzero⟩ := exists_toDigits_eq n
  have hwhole : readWhole (c :: digits) = some (c :: digits, []) := by
    -- A run that begins with a zero has nothing behind it, so both ways of reading take all of it.
    by_cases h : c = '0'
    · rw [h, hzero h]
      rfl
    · simp only [readWhole, if_neg h, if_pos hc, spanDigits_of_isDigit hrest]
  rw [hrun, readUnsigned, hwhole]
  rfl

/-- A written integer of up to 64 bits is read as the same integer. -/
theorem read_toString {n : Int} (hlow : -2 ^ 63 ≤ n) (hhigh : n < 2 ^ 64) :
    read (toString n).toList = some (.integer n, []) := by
  have hvalue : ∀ m : Nat, Text.longDigitsValue (Nat.toDigits 10 m) = m := fun m =>
    (longDigitsValue_eq _).trans Nat.ofDigitChars_ten_toDigits
  cases n with
  | ofNat m =>
    obtain ⟨c, digits, hrun, hc, -, -⟩ := exists_toDigits_eq m
    rw [toList_toString_ofNat, read]
    · rw [readUnsigned_toDigits]
      have hm : m < UInt64.size := by
        have : UInt64.size = 2 ^ 64 := rfl
        rw [Int.ofNat_eq_natCast] at hhigh
        omega
      simp [ofParts, hvalue, hm]
    · -- The first character is a digit, so the numeral has no sign.
      rw [hrun]
      rintro rest heq
      rw [(List.cons.inj heq).1] at hc
      cases hc
  | negSucc m =>
    rw [toList_toString_negSucc, read, readUnsigned_toDigits]
    have hm : m + 1 ≤ Int64.size / 2 := by
      have : Int64.size / 2 = 2 ^ 63 := rfl
      omega
    simp [ofParts, hvalue, hm, Int.negSucc_eq]

end SchemaMigration.Json.Numeral
