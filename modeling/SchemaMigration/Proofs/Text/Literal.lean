import SchemaMigration.Proofs.Text.FrontReading

/-!
# `SchemaMigration.Proofs.Text.Literal`: names, integers and quoted literals in a text

A name is a text of the form `[A-Za-z_][A-Za-z0-9_]*` (`isName_iff`). It has no quote in
it (`quote_not_mem_of_isName`), so in a text where one stands between quotes, the quotes
are where it ends.

Any other text may have quotes, and is escaped. A reader finds the quote that closes the
literal, so a text that starts with a literal says which text that is and what follows
(`quoted_append_inj`). No literal is the beginning of another one (`quoted_prefix_iff`).

An integer is a text of the form `-?(0|[1-9][0-9]*)` (`isIntegerLiteral_iff`). It does not
start with a quote, so it is no quoted literal of any text (`SpellsInteger.ne_quoted`).
-/

set_option autoImplicit false

namespace SchemaMigration.Text

/-- A character of `[A-Za-z_]`. -/
def StartsName (c : Char) : Prop :=
  ('A' ≤ c ∧ c ≤ 'Z') ∨ ('a' ≤ c ∧ c ≤ 'z') ∨ c = '_'

/-- A character of `[A-Za-z0-9_]`. -/
def ContinuesName (c : Char) : Prop :=
  StartsName c ∨ ('0' ≤ c ∧ c ≤ '9')

/-- A text of the form `[A-Za-z_][A-Za-z0-9_]*`. -/
def SpellsName (text : String) : Prop :=
  ∃ c rest, text.toList = c :: rest ∧ StartsName c ∧ ∀ d ∈ rest, ContinuesName d

theorem isDigit_iff {c : Char} : c.isDigit = true ↔ '0' ≤ c ∧ c ≤ '9' := by
  simp only [Char.isDigit, Bool.and_eq_true, decide_eq_true_eq]
  rfl

theorem isNameStart_iff {c : Char} : isNameStart c = true ↔ StartsName c := by
  have hranges : isNameStart c = (decide ('A' ≤ c ∧ c ≤ 'Z') ||
      (decide ('a' ≤ c) && decide (c ≤ 'z')) || c == '_') := rfl
  simp only [hranges, StartsName, Bool.or_eq_true, Bool.and_eq_true, decide_eq_true_eq, beq_iff_eq,
    or_assoc]

theorem isNamePart_iff {c : Char} : isNamePart c = true ↔ ContinuesName c := by
  have hstart : isNamePart c = (isNameStart c || c.isDigit) := by
    simp only [isNamePart, isNameStart, Char.isAlphanum, Bool.or_right_comm]
  rw [hstart, Bool.or_eq_true, isNameStart_iff, isDigit_iff, ContinuesName]

/-- The texts that are taken for names. -/
theorem isName_iff {text : String} : isName text = true ↔ SpellsName text := by
  unfold isName SpellsName
  cases text.toList with
  | nil => simp
  | cons c rest =>
    simp only [Bool.and_eq_true, List.all_eq_true, isNameStart_iff, isNamePart_iff, List.cons.injEq]
    constructor
    · exact fun ⟨hfirst, hrest⟩ => ⟨c, rest, ⟨rfl, rfl⟩, hfirst, hrest⟩
    · rintro ⟨c, rest, ⟨rfl, rfl⟩, hfirst, hrest⟩
      exact ⟨hfirst, hrest⟩

/-- Every character of a name is one that a name can go on with, the first one included. -/
theorem isNamePart_of_isName {text : String} (h : isName text = true) {c : Char}
    (hc : c ∈ text.toList) : isNamePart c = true := by
  obtain ⟨first, rest, htext, hfirst, hrest⟩ := isName_iff.1 h
  rw [htext] at hc
  rcases List.mem_cons.1 hc with rfl | hc
  · exact isNamePart_iff.2 (.inl hfirst)
  · exact isNamePart_iff.2 (hrest c hc)

/-- A name has no quote in it. -/
theorem quote_not_mem_of_isName {text : String} (h : isName text = true) :
    quote ∉ text.toList :=
  fun hmem => absurd (isNamePart_of_isName h hmem) (by decide)

/-! ### Quoted literals -/

/-- A literal at the start of a text denotes one text only. -/
theorem quoted_append_inj {a b x y : String} (h : quoted a ++ x = quoted b ++ y) :
    a = b ∧ x = y := by
  have hread := readQuoted_append a x.toList
  rw [← String.toList_append, h, String.toList_append, readQuoted_append] at hread
  obtain ⟨htext, hrest⟩ := Prod.mk.inj (Option.some.inj hread)
  exact ⟨htext.symm, (String.toList_inj.1 hrest).symm⟩

/-- Two texts have different literals. -/
theorem quoted_injective : Function.Injective quoted := by
  intro a b h
  have hread := readQuoted_append a []
  rw [h, readQuoted_append] at hread
  exact (Prod.mk.inj (Option.some.inj hread)).1.symm

/-- A literal is the beginning of no other one. -/
theorem quoted_prefix_iff {a b : String} : (quoted a).toList <+: (quoted b).toList ↔ a = b := by
  constructor
  · rintro ⟨rest, hrest⟩
    have hread := readQuoted_append a rest
    have hwhole := readQuoted_append b []
    rw [List.append_nil, ← hrest, hread] at hwhole
    exact (Prod.mk.inj (Option.some.inj hwhole)).1
  · rintro rfl
    exact List.prefix_rfl

/-- Escaping leaves out nothing. -/
theorem length_le_length_escape (text : List Char) : text.length ≤ (escape text).length := by
  fun_induction escape text with
  | case1 => exact Nat.le_refl 0
  | case2 c rest hescaped ih => simp only [List.length_cons]; omega
  | case3 c rest hplain ih => exact Nat.succ_le_succ ih

/-- A literal is longer than its text. -/
theorem quoted_ne (text : String) : quoted text ≠ text := by
  intro h
  have hlength := congrArg (List.length ∘ String.toList) h
  have hle := length_le_length_escape text.toList
  simp only [Function.comp_apply, quoted, String.toList_ofList, List.length_cons,
    List.length_append, List.length_nil] at hlength
  omega

/-! ### Integers -/

/-- Characters of the form `0|[1-9][0-9]*`. -/
def SpellsNatural (digits : List Char) : Prop :=
  digits = ['0'] ∨ ∃ first rest, digits = first :: rest ∧ ('1' ≤ first ∧ first ≤ '9') ∧
    ∀ d ∈ rest, '0' ≤ d ∧ d ≤ '9'

/-- A text of the form `-?(0|[1-9][0-9]*)`. -/
def SpellsInteger (text : String) : Prop :=
  ∃ sign digits, text.toList = sign ++ digits ∧ (sign = [] ∨ sign = ['-']) ∧ SpellsNatural digits

/-- The digits that a number may start with. -/
theorem isDigit_and_ne_zero_iff {c : Char} :
    c.isDigit = true ∧ c ≠ '0' ↔ '1' ≤ c ∧ c ≤ '9' := by
  have hval : c = '0' ↔ c.val.toNat = 48 := by
    rw [← Char.val_inj, ← UInt32.toNat_inj]
    rfl
  rw [isDigit_iff, Ne, hval]
  simp only [Char.le_def, UInt32.le_iff_toNat_le]
  have h0 : '0'.val.toNat = 48 := rfl
  have h1 : '1'.val.toNat = 49 := rfl
  omega

theorem isPlainNatural_iff {digits : List Char} :
    isPlainNatural digits = true ↔ SpellsNatural digits := by
  unfold isPlainNatural SpellsNatural
  split
  · simp
  · simp
  · next c rest hzero =>
    have hne : c :: rest ≠ ['0'] := fun h => hzero (List.cons.inj h).1 (List.cons.inj h).2
    simp only [Bool.and_eq_true, bne_iff_ne, List.all_eq_true, hne, false_or]
    rw [isDigit_and_ne_zero_iff]
    simp only [isDigit_iff]
    constructor
    · exact fun ⟨hfirst, hrest⟩ => ⟨c, rest, rfl, hfirst, hrest⟩
    · rintro ⟨first, others, heq, hfirst, hothers⟩
      obtain ⟨rfl, rfl⟩ := List.cons.inj heq
      exact ⟨hfirst, hothers⟩

/-- A number without a sign consists of digits. -/
theorem SpellsNatural.isDigit_of_mem {digits : List Char} (h : SpellsNatural digits) {c : Char}
    (hc : c ∈ digits) : c.isDigit = true := by
  rcases h with rfl | ⟨first, rest, rfl, hfirst, hrest⟩
  · obtain rfl := List.mem_singleton.1 hc
    rfl
  · rcases List.mem_cons.1 hc with rfl | hc
    · exact (isDigit_and_ne_zero_iff.2 hfirst).1
    · exact isDigit_iff.2 (hrest c hc)

/-- There is a digit at its front. -/
theorem SpellsNatural.exists_first {digits : List Char} (h : SpellsNatural digits) :
    ∃ first rest, digits = first :: rest ∧ first.isDigit = true := by
  cases digits with
  | nil =>
    rcases h with h | ⟨first, rest, h, -⟩
    · cases h
    · cases h
  | cons first rest => exact ⟨first, rest, rfl, h.isDigit_of_mem List.mem_cons_self⟩

/-- The texts that are taken for integers. -/
theorem isIntegerLiteral_iff {text : String} :
    isIntegerLiteral text = true ↔ SpellsInteger text := by
  unfold isIntegerLiteral SpellsInteger
  split
  · next digits htext =>
    rw [isPlainNatural_iff, htext]
    constructor
    · exact fun h => ⟨['-'], digits, rfl, .inr rfl, h⟩
    · rintro ⟨sign, others, heq, rfl | rfl, hspells⟩
      · -- The sign would be a digit.
        obtain ⟨first, rest, rfl, hdigit⟩ := hspells.exists_first
        obtain ⟨rfl, -⟩ := List.cons.inj heq
        exact absurd hdigit (by decide)
      · obtain ⟨-, rfl⟩ := List.cons.inj heq
        exact hspells
  · next hsign =>
    rw [isPlainNatural_iff]
    constructor
    · exact fun h => ⟨[], text.toList, rfl, .inl rfl, h⟩
    · rintro ⟨sign, others, heq, rfl | rfl, hspells⟩
      · rwa [heq]
      · exact absurd heq (hsign others)

/-- An integer is no quoted literal. -/
theorem SpellsInteger.ne_quoted {text : String} (h : SpellsInteger text) (other : String) :
    text ≠ quoted other := by
  rintro rfl
  obtain ⟨sign, digits, heq, hsign, hspells⟩ := h
  obtain ⟨first, rest, rfl, hdigit⟩ := hspells.exists_first
  rw [quoted, String.toList_ofList] at heq
  rcases hsign with rfl | rfl
  · obtain ⟨rfl, -⟩ := List.cons.inj heq
    exact absurd hdigit (by decide)
  · exact absurd (List.cons.inj heq).1 (by decide)

end SchemaMigration.Text
