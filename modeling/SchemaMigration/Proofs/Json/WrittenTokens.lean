import SchemaMigration.Json.Token
import SchemaMigration.Json.Value
import SchemaMigration.Proofs.Json.NumeralText
import SchemaMigration.Proofs.Json.QuotedText

/-!
# `SchemaMigration.Proofs.Json.WrittenTokens`: both texts of a value have its tokens

A value has tokens (`Value.tokens`), and both of its texts are cut into them: the one
without gaps (`cutInto_compact`) and the indented one (`cutInto_indented`). The two texts
differ in gaps alone, and no token begins with a gap.

A text is cut token by token, so the tokens of a value are followed by those of what
stands behind its text. Only a numeral looks further than its own end. The texts behind
a value are therefore those that end a numeral, which commas, brackets and line breaks do.

The integers of a value have to fit into 64 bits, and the texts of its doubles have to
be read back as the doubles (`Value.Readable`).
-/

set_option autoImplicit false

namespace SchemaMigration

open SchemaMigration.Number
open SchemaMigration.Json.Numeral (EndsNumeral endsNumeral_nil endsNumeral_cons)

/-- The JSON text of a double is read to its end, as the double. -/
def Number.Binary64.ReadsBack (x : Binary64) : Prop :=
  Json.Numeral.read x.jsonText.toList = some (.real x, [])

instance (x : Binary64) : Decidable x.ReadsBack :=
  inferInstanceAs (Decidable (Json.Numeral.read x.jsonText.toList = some (.real x, [])))

namespace Json

variable {rest : List Char}

/-! ### Single tokens -/

/-- A token that is read stands before the tokens of what follows it. -/
theorem tokens_cons {c : Char} {token : Token} {after : List Char}
    (hread : Token.read c rest = (token, after)) (hgap : Token.isGap c = false)
    (hgood : token ≠ .bad) : tokens (c :: rest) = token :: tokens after := by
  rw [tokens, if_neg (by simp [hgap]), hread]
  exact if_neg hgood

/-- A gap has no tokens. -/
theorem tokens_gap {gap : List Char} (h : ∀ c ∈ gap, Token.isGap c) :
    tokens (gap ++ rest) = tokens rest := by
  induction gap with
  | nil => rfl
  | cons c gap ih =>
    rw [List.cons_append, tokens, if_pos (h c (by simp))]
    exact ih fun d hd => h d (by simp [hd])

theorem tokens_comma : tokens (',' :: rest) = .comma :: tokens rest :=
  tokens_cons rfl rfl (by decide)

theorem tokens_colon : tokens (":".toList ++ rest) = .colon :: tokens rest :=
  tokens_cons rfl rfl (by decide)

theorem tokens_colonSpace : tokens (": ".toList ++ rest) = .colon :: tokens rest := by
  have hspace : tokens ([' '] ++ rest) = tokens rest :=
    tokens_gap (List.forall_mem_singleton.2 rfl)
  rw [← hspace]
  exact tokens_cons rfl rfl (by decide)

theorem tokens_null : tokens ("null".toList ++ rest) = .null :: tokens rest :=
  tokens_cons rfl rfl (by decide)

theorem tokens_booleanText (b : Bool) :
    tokens ((Value.booleanText b).toList ++ rest) = .boolean b :: tokens rest := by
  cases b with
  | false => exact tokens_cons rfl rfl (by decide)
  | true => exact tokens_cons rfl rfl (by decide)

/-- A written string is one token. -/
theorem tokens_stringText (text : String) :
    tokens ((Value.stringText text).toList ++ rest) = .string (some text) :: tokens rest := by
  obtain ⟨pieces, hscan, hjoin⟩ := Quoted.exists_scan_encode text.toList rest
  rw [Value.stringText, String.toList_ofList, Quoted.encode, List.cons_append, List.append_assoc]
  refine tokens_cons ?_ rfl nofun
  simp [Token.read, hscan, hjoin]

/-- A text that is read as a numeral starts with a sign or a digit. -/
theorem exists_of_readNumeral {text : List Char} {n : Numeral} {after : List Char}
    (h : Numeral.read text = some (n, after)) :
    ∃ c tail, text = c :: tail ∧ (c = '-' ∨ c.isDigit) := by
  unfold Numeral.read at h
  split at h
  · next tail => exact ⟨'-', tail, rfl, .inl rfl⟩
  · simp only [Numeral.readUnsigned, Option.bind_eq_bind, Option.bind_eq_some_iff] at h
    obtain ⟨whole, hwhole, -⟩ := h
    -- Without a sign the whole part comes first, and it has a digit.
    cases text with
    | nil => cases hwhole
    | cons c tail =>
      refine ⟨c, tail, rfl, .inr ?_⟩
      simp only [Numeral.readWhole] at hwhole
      split at hwhole
      · next hzero =>
        rw [hzero]
        rfl
      · split at hwhole
        · assumption
        · cases hwhole

/-- A sign or a digit starts no other token. -/
theorem read_of_digit {c : Char} (h : c = '-' ∨ c.isDigit) (rest : List Char) :
    Token.read c rest = match Numeral.read (c :: rest) with
      | some (n, rest) => (.number n, rest)
      | none => (.bad, []) := by
  unfold Token.read
  split
  case h_11 => rfl
  all_goals exact absurd h (by decide)

/-- A numeral that is read to its end is one token. -/
theorem tokens_numeral {text : List Char} {n : Numeral} (hread : Numeral.read text = some (n, []))
    (hrest : EndsNumeral rest) : tokens (text ++ rest) = .number n :: tokens rest := by
  obtain ⟨c, tail, rfl, hc⟩ := exists_of_readNumeral hread
  -- In front of `rest` the numeral is read as it is alone.
  have hall := Numeral.read_append hrest hread
  rw [List.cons_append, List.nil_append] at hall
  rw [List.cons_append]
  refine tokens_cons ?_ ?_ nofun
  · rw [read_of_digit hc, hall]
  · rcases hc with rfl | hc
    · rfl
    · -- No gap is a digit.
      unfold Token.isGap
      simp only [Bool.or_eq_false_iff, beq_eq_false_iff_ne]
      refine ⟨⟨⟨?_, ?_⟩, ?_⟩, ?_⟩
      all_goals
        rintro rfl
        cases hc

/-! ### Tokens of a value -/

namespace Value

mutual

/-- The tokens of a value. -/
def tokens : Value → List Token
  | .null => [.null]
  | .boolean b => [.boolean b]
  | .integer n => [.number (.integer n)]
  | .real x => [.number (.real x)]
  | .string text => [.string (some text)]
  | .array items => .openArray :: (List.intercalate [.comma] (itemTokens items) ++ [.closeArray])
  | .object members =>
    .openObject :: (List.intercalate [.comma] (memberTokens members) ++ [.closeObject])

/-- The tokens of each item. -/
def itemTokens : List Value → List (List Token)
  | [] => []
  | item :: rest => item.tokens :: itemTokens rest

/-- The tokens of each member. -/
def memberTokens : List (String × Value) → List (List Token)
  | [] => []
  | (key, value) :: rest =>
    (.string (some key) :: .colon :: value.tokens) :: memberTokens rest

end

mutual

/-- Whether the numbers in a value can be read from their texts. -/
def Readable : Value → Prop
  | .null | .boolean _ | .string _ => True
  | .integer n => -2 ^ 63 ≤ n ∧ n < 2 ^ 64
  | .real x => x.ReadsBack
  | .array items => ReadableItems items
  | .object members => ReadableMembers members

/-- Whether the numbers in items can be read from their texts. -/
def ReadableItems : List Value → Prop
  | [] => True
  | item :: rest => item.Readable ∧ ReadableItems rest

/-- Whether the numbers in members can be read from their texts. -/
def ReadableMembers : List (String × Value) → Prop
  | [] => True
  | (_, value) :: rest => value.Readable ∧ ReadableMembers rest

end

theorem readableItems_iff {items : List Value} :
    ReadableItems items ↔ ∀ item ∈ items, item.Readable := by
  induction items with
  | nil => simp [ReadableItems]
  | cons item items ih => rw [ReadableItems, ih, List.forall_mem_cons]

theorem readableMembers_iff {members : List (String × Value)} :
    ReadableMembers members ↔ ∀ member ∈ members, member.2.Readable := by
  induction members with
  | nil => simp [ReadableMembers]
  | cons member members ih => rw [ReadableMembers, ih, List.forall_mem_cons]

end Value

/-! ### Entries between brackets -/

/-- A text is cut into tokens, whatever stands behind it that ends a numeral. -/
def CutInto (text : String) (found : List Token) : Prop :=
  ∀ rest, EndsNumeral rest → tokens (text.toList ++ rest) = found ++ tokens rest

/-- Entries with commas between them are cut into their tokens with commas between those. Gaps
may stand behind the commas. -/
theorem cutInto_intercalate {gap : String} (hgap : ∀ c ∈ gap.toList, Token.isGap c)
    {texts : List String} {found : List (List Token)} (h : List.Forall₂ CutInto texts found) :
    CutInto (String.intercalate ("," ++ gap) texts) (List.intercalate [.comma] found) := by
  induction h with
  | nil => exact fun _ _ => rfl
  | @cons text first texts found hfirst hrest ih =>
    cases hrest with
    | nil => simpa using hfirst
    | @cons next second texts found =>
      intro rest hends
      -- A comma ends a numeral, so the first entry is cut as it is alone.
      have hcomma : ",".toList = [','] := rfl
      rw [String.intercalate_cons_cons, List.intercalate_cons_cons]
      simp only [String.toList_append, List.append_assoc, hcomma, List.cons_append, List.nil_append]
      rw [hfirst _ (endsNumeral_cons rfl _), tokens_comma, tokens_gap hgap, ih rest hends]

/-- A bracket is a token of its own and ends a numeral. -/
structure IsBracket (text : String) (token : Token) : Prop where
  cut : ∀ rest, tokens (text.toList ++ rest) = token :: tokens rest
  ends : ∀ rest, EndsNumeral (text.toList ++ rest)

theorem isBracket_openArray : IsBracket "[" .openArray :=
  ⟨fun _ => tokens_cons rfl rfl (by decide), fun _ => endsNumeral_cons rfl _⟩

theorem isBracket_closeArray : IsBracket "]" .closeArray :=
  ⟨fun _ => tokens_cons rfl rfl (by decide), fun _ => endsNumeral_cons rfl _⟩

theorem isBracket_openObject : IsBracket "\x7b" .openObject :=
  ⟨fun _ => tokens_cons rfl rfl (by decide), fun _ => endsNumeral_cons rfl _⟩

theorem isBracket_closeObject : IsBracket "\x7d" .closeObject :=
  ⟨fun _ => tokens_cons rfl rfl (by decide), fun _ => endsNumeral_cons rfl _⟩

theorem isGap_nothing : ∀ c ∈ "".toList, Token.isGap c := nofun

theorem isGap_newline (depth : Nat) : ∀ c ∈ (Value.newline depth).toList, Token.isGap c := by
  rw [Value.newline, String.toList_ofList, List.forall_mem_cons]
  refine ⟨rfl, fun c hc => ?_⟩
  rw [List.eq_of_mem_replicate hc]
  rfl

/-- A gap ends a numeral when what stands behind it does. -/
theorem endsNumeral_gap {gap : List Char} (hgap : ∀ c ∈ gap, Token.isGap c)
    (hrest : EndsNumeral rest) : EndsNumeral (gap ++ rest) := by
  cases gap with
  | nil => exact hrest
  | cons c gap =>
    refine endsNumeral_cons ?_ _
    have hc := hgap c (by simp)
    simp only [Token.isGap, Bool.or_eq_true, beq_iff_eq] at hc
    rcases hc with ((rfl | rfl) | rfl) | rfl <;> rfl

section Brackets

variable {opening closing gap ending : String} {first last : Token} {texts : List String}
  {found : List (List Token)}

/-- Entries between brackets. Gaps may stand behind the opening bracket, behind the commas and
before the closing bracket. -/
theorem cutInto_between (hopen : IsBracket opening first) (hclose : IsBracket closing last)
    (hgap : ∀ c ∈ gap.toList, Token.isGap c) (hending : ∀ c ∈ ending.toList, Token.isGap c)
    (h : List.Forall₂ CutInto texts found) :
    CutInto (opening ++ gap ++ String.intercalate ("," ++ gap) texts ++ ending ++ closing)
      (first :: (List.intercalate [.comma] found ++ [last])) := by
  intro rest hends
  simp only [String.toList_append, List.append_assoc]
  rw [hopen.cut, tokens_gap hgap,
    cutInto_intercalate hgap h _ (endsNumeral_gap hending (hclose.ends rest)),
    tokens_gap hending, hclose.cut]
  simp

/-- Entries between brackets, without gaps. -/
theorem cutInto_dense (hopen : IsBracket opening first) (hclose : IsBracket closing last)
    (h : List.Forall₂ CutInto texts found) :
    CutInto (opening ++ String.intercalate "," texts ++ closing)
      (first :: (List.intercalate [.comma] found ++ [last])) := by
  simpa using cutInto_between hopen hclose isGap_nothing isGap_nothing h

/-- Entries between brackets, on lines of their own. -/
theorem cutInto_block (hopen : IsBracket opening first) (hclose : IsBracket closing last)
    (depth : Nat) (h : List.Forall₂ CutInto texts found) :
    CutInto (Value.block opening closing depth texts)
      (first :: (List.intercalate [.comma] found ++ [last])) := by
  unfold Value.block
  split
  · next hnone =>
    -- Brackets with nothing between them stand together in both texts.
    obtain rfl := List.isEmpty_iff.1 hnone
    simpa using cutInto_dense hopen hclose h
  · exact cutInto_between hopen hclose (isGap_newline _) (isGap_newline _) h

end Brackets

/-! ### The two texts of a value -/

/-- The text of an integer in its range is one token. -/
theorem cutInto_integer {n : Int} (h : -2 ^ 63 ≤ n ∧ n < 2 ^ 64) :
    CutInto (toString n) [.number (.integer n)] :=
  fun _ => tokens_numeral (Numeral.read_toString h.1 h.2)

/-- A key is one token, and so is the colon behind it. -/
theorem cutInto_member {key text colon : String} {found : List Token}
    (hcolon : ∀ rest, tokens (colon.toList ++ rest) = .colon :: tokens rest)
    (h : CutInto text found) :
    CutInto (Value.stringText key ++ colon ++ text) (.string (some key) :: .colon :: found) := by
  intro rest hends
  simp only [String.toList_append, List.append_assoc, List.cons_append]
  rw [tokens_stringText, hcolon, h rest hends]

mutual

/-- The text of a value without gaps has its tokens. -/
theorem cutInto_compact : ∀ {value : Value}, value.Readable → CutInto value.compact value.tokens
  | .null, _ => fun _ _ => tokens_null
  | .boolean b, _ => fun _ _ => tokens_booleanText b
  | .integer _, h => cutInto_integer h
  | .real _, h => fun _ => tokens_numeral h
  | .string text, _ => fun _ _ => tokens_stringText text
  | .array _, h =>
    cutInto_dense isBracket_openArray isBracket_closeArray (cutInto_compactItems h)
  | .object _, h =>
    cutInto_dense isBracket_openObject isBracket_closeObject (cutInto_compactMembers h)

theorem cutInto_compactItems : ∀ {items : List Value}, Value.ReadableItems items →
    List.Forall₂ CutInto (Value.compactItems items) (Value.itemTokens items)
  | [], _ => .nil
  | _ :: _, h => .cons (cutInto_compact h.1) (cutInto_compactItems h.2)

theorem cutInto_compactMembers : ∀ {members : List (String × Value)},
    Value.ReadableMembers members →
      List.Forall₂ CutInto (Value.compactMembers members) (Value.memberTokens members)
  | [], _ => .nil
  | _ :: _, h =>
    .cons (cutInto_member (fun _ => tokens_colon) (cutInto_compact h.1))
      (cutInto_compactMembers h.2)

end

mutual

/-- The indented text of a value has its tokens. -/
theorem cutInto_indented : ∀ {value : Value}, value.Readable →
    ∀ depth, CutInto (value.indented depth) value.tokens
  | .null, _, _ => fun _ _ => tokens_null
  | .boolean b, _, _ => fun _ _ => tokens_booleanText b
  | .integer _, h, _ => cutInto_integer h
  | .real _, h, _ => fun _ => tokens_numeral h
  | .string text, _, _ => fun _ _ => tokens_stringText text
  | .array _, h, depth => cutInto_block isBracket_openArray isBracket_closeArray depth
      (cutInto_indentedItems h (depth + 1))
  | .object _, h, depth => cutInto_block isBracket_openObject isBracket_closeObject depth
      (cutInto_indentedMembers h (depth + 1))

theorem cutInto_indentedItems : ∀ {items : List Value}, Value.ReadableItems items →
    ∀ depth, List.Forall₂ CutInto (Value.indentedItems depth items) (Value.itemTokens items)
  | [], _, _ => .nil
  | _ :: _, h, depth => .cons (cutInto_indented h.1 depth) (cutInto_indentedItems h.2 depth)

theorem cutInto_indentedMembers : ∀ {members : List (String × Value)},
    Value.ReadableMembers members → ∀ depth,
      List.Forall₂ CutInto (Value.indentedMembers depth members) (Value.memberTokens members)
  | [], _, _ => .nil
  | _ :: _, h, depth =>
    .cons (cutInto_member (fun _ => tokens_colonSpace) (cutInto_indented h.1 depth))
      (cutInto_indentedMembers h.2 depth)

end

end Json

end SchemaMigration
