import SchemaMigration.Migration.Statement
import SchemaMigration.Proofs.Json.BuiltTree
import SchemaMigration.Proofs.Json.FieldPlaces
import SchemaMigration.Proofs.Schema.RearrangedDocument
import SchemaMigration.Proofs.Text.Trimmed

/-!
# `SchemaMigration.Proofs.Schema.LengthTexts`: the texts of a column's length

A document may give the length of a column as a text. `SpellsLength` says which texts there are for
a length, without a look at how they are read: decimal digits with any number of zeros in front,
maybe behind a plus sign, and with blanks around. A blank text is for no length. These texts are
read, and no others (`lengthOfText_eq_ok_iff`).

A column depends on the place of its length through what is read there
(`Column.exists_toOption_put`), and so does the document around it (`LengthPlace.carries`).
`length_spelled` puts this together for every text.
-/

set_option autoImplicit false

namespace SchemaMigration

open SchemaMigration.Json SchemaMigration.Json.Decoder
open SchemaMigration.Outcome
open SchemaMigration.Text (isBlank digitsValue trimChars Trimmed trimChars_eq_iff
  trimChars_eq_nil_iff)

namespace Column

/-! ### Texts that spell a length -/

/-- A word spells a 32-bit number: decimal digits, of which there is one at least, and maybe a plus
sign in front of them. -/
inductive SpellsNumber : List Char → UInt32 → Prop
  | digits {sign digits : List Char} {n : UInt32} (hsign : sign = [] ∨ sign = ['+'])
    (hne : digits ≠ []) (hdigits : ∀ c ∈ digits, c.isDigit)
    (hvalue : digitsValue digits = n.toNat) : SpellsNumber (sign ++ digits) n

/-- A text spells a length, or that there is none. Blanks around the number do not count. -/
inductive SpellsLength (text : String) : Option UInt32 → Prop
  | blank (h : ∀ c ∈ text.toList, isBlank c) : SpellsLength text none
  | number {front word back : List Char} {n : UInt32} (htext : text.toList = front ++ word ++ back)
    (hfront : ∀ c ∈ front, isBlank c) (hback : ∀ c ∈ back, isBlank c)
    (hword : SpellsNumber word n) : SpellsLength text (some n)

/-- The 32-bit number that a text without a sign spells. -/
def numberOfDigits? (digits : List Char) : Option UInt32 :=
  if digits.isEmpty || !digits.all Char.isDigit then none
  else if digitsValue digits < UInt32.size then some (UInt32.ofNat (digitsValue digits)) else none

theorem numberOfDigits?_eq_some_iff {digits : List Char} {n : UInt32} :
    numberOfDigits? digits = some n ↔
      digits ≠ [] ∧ (∀ c ∈ digits, c.isDigit) ∧ digitsValue digits = n.toNat := by
  rw [numberOfDigits?]
  by_cases hdigits : digits ≠ [] ∧ ∀ c ∈ digits, c.isDigit
  · have hneg : ¬ (digits.isEmpty || !digits.all Char.isDigit) = true := by simpa using hdigits
    rw [if_neg hneg, ← and_assoc, and_iff_right hdigits]
    split
    · next hlt =>
      rw [Option.some.injEq, ← UInt32.toNat_inj, UInt32.toNat_ofNat_of_lt' hlt]
    · next hge =>
      -- The number is too large for 32 bits, so it is none of them.
      exact iff_of_false nofun fun hvalue => hge (hvalue ▸ n.toNat_lt_size)
  · have hpos : (digits.isEmpty || !digits.all Char.isDigit) = true := by
      simpa [or_iff_not_imp_left] using hdigits
    rw [if_pos hpos, ← and_assoc]
    exact iff_of_false nofun fun h => hdigits h.1

theorem wordOfDigits?_plus (digits : List Char) :
    wordOfDigits? ('+' :: digits) = numberOfDigits? digits := rfl

theorem wordOfDigits?_of_ne_plus {digits : List Char} (h : ∀ c ∈ digits.head?, c ≠ '+') :
    wordOfDigits? digits = numberOfDigits? digits := by
  cases digits with
  | nil => rfl
  | cons c digits =>
    have hplus : c ≠ '+' := h c rfl
    simp [wordOfDigits?, numberOfDigits?, hplus]

/-- A number is read of the words that spell one. -/
theorem wordOfDigits?_eq_some_iff {word : List Char} {n : UInt32} :
    wordOfDigits? word = some n ↔ SpellsNumber word n := by
  constructor
  · intro h
    -- A sign is no digit, so it is taken off once at most.
    by_cases hplus : ∃ digits, word = '+' :: digits
    · obtain ⟨digits, rfl⟩ := hplus
      rw [wordOfDigits?_plus, numberOfDigits?_eq_some_iff] at h
      exact .digits (.inr rfl) h.1 h.2.1 h.2.2
    · rw [wordOfDigits?_of_ne_plus, numberOfDigits?_eq_some_iff] at h
      · exact .digits (.inl rfl) h.1 h.2.1 h.2.2
      · rintro c hc rfl
        obtain ⟨rest, hrest⟩ := List.head?_eq_some_iff.1 hc
        exact hplus ⟨rest, hrest⟩
  · rintro ⟨rfl | rfl, hne, hdigits, hvalue⟩
    · rw [List.nil_append, wordOfDigits?_of_ne_plus, numberOfDigits?_eq_some_iff]
      · exact ⟨hne, hdigits, hvalue⟩
      · rintro c hc rfl
        cases hdigits '+' (List.mem_of_head? hc)
    · rw [List.singleton_append, wordOfDigits?_plus, numberOfDigits?_eq_some_iff]
      exact ⟨hne, hdigits, hvalue⟩

theorem isBlank_eq_false_of_isDigit {c : Char} (h : c.isDigit = true) : isBlank c = false := by
  have hrange : 48 ≤ c.toNat ∧ c.toNat ≤ 57 := by
    simpa [Char.isDigit_iff_toNat] using h
  simp only [isBlank, Bool.or_eq_false_iff, Bool.and_eq_false_iff, decide_eq_false_iff_not,
    beq_eq_false_iff_ne]
  omega

theorem SpellsNumber.trimmed {word : List Char} {n : UInt32} (h : SpellsNumber word n) :
    Trimmed word := by
  obtain ⟨hsign, -, hdigits, -⟩ := h
  refine .of_forall fun c hc => ?_
  rcases List.mem_append.1 hc with hc | hc
  · rcases hsign with rfl | rfl
    · cases hc
    · obtain rfl := List.mem_singleton.1 hc
      rfl
  · exact isBlank_eq_false_of_isDigit (hdigits c hc)

theorem SpellsNumber.ne_nil {word : List Char} {n : UInt32} (h : SpellsNumber word n) :
    word ≠ [] := by
  obtain ⟨-, hne, -, -⟩ := h
  exact List.append_ne_nil_of_right_ne_nil _ hne

/-- A length is read of the texts that spell one. -/
theorem lengthOfText_eq_ok_iff {text : String} {length : Option UInt32} :
    lengthOfText text = .ok length ↔ SpellsLength text length := by
  constructor
  · intro h
    -- Trimming leaves nothing of blanks. Of other texts it leaves the word between them.
    by_cases hnil : trimChars text.toList = []
    · rw [lengthOfText, hnil] at h
      obtain rfl := Except.ok.inj h
      exact .blank (trimChars_eq_nil_iff.1 hnil)
    · simp only [lengthOfText, List.isEmpty_iff, if_neg hnil] at h
      cases hword : wordOfDigits? (trimChars text.toList) with
      | none =>
        rw [hword] at h
        cases h
      | some n =>
        rw [hword] at h
        obtain rfl := Except.ok.inj h
        obtain ⟨-, front, back, htext, hfront, hback⟩ := trimChars_eq_iff.1 rfl
        exact .number htext hfront hback (wordOfDigits?_eq_some_iff.1 hword)
  · rintro (hblank | ⟨htext, hfront, hback, hword⟩)
    · rw [lengthOfText, trimChars_eq_nil_iff.2 hblank]
      rfl
    · rw [lengthOfText, trimChars_eq_iff.2 ⟨hword.trimmed, _, _, htext, hfront, hback⟩]
      simp only [List.isEmpty_iff, if_neg hword.ne_nil, wordOfDigits?_eq_some_iff.2 hword]

/-- A value that is not `null` is read as the length that it gives. -/
theorem lengthDecoder_of_ne_null (room : Nat) (tree : Tree) (h : tree ≠ .null) :
    lengthDecoder room tree = lengthDecoder.givenLength room tree := by
  have hsome : lengthDecoder room tree =
      (lengthDecoder.givenLength room tree >>= fun length => pure (some length)) >>=
        fun length => pure length.join := by
    cases tree with
    | null => exact absurd rfl h
    | broken | boolean | number | string | array | object => rfl
  rw [hsome, bind_assoc]
  exact bind_pure _

/-- The length of a column is read of the strings that spell one. -/
theorem lengthDecoder_string_eq_ok_iff {room : Nat} {text : String} {length : Option UInt32} :
    lengthDecoder room (.string (some text)) = .ok length ↔ SpellsLength text length := by
  have hgiven : lengthDecoder room (.string (some text)) =
      (lengthOfText text).mapError .shape := lengthDecoder_of_ne_null _ (.string (some text)) nofun
  rw [hgiven, mapError_eq_ok_iff, lengthOfText_eq_ok_iff]

/-- A number of 32 bits is read as itself. -/
theorem lengthDecoder_number (room : Nat) (n : UInt32) :
    lengthDecoder room (.number (.integer n.toNat)) = .ok (some n) := by
  have hrange : (0 : Int) ≤ n.toNat ∧ (n.toNat : Int) < UInt32.size :=
    ⟨Int.natCast_nonneg _, Int.ofNat_lt.2 n.toNat_lt_size⟩
  rw [lengthDecoder_of_ne_null _ (.number (.integer n.toNat)) nofun]
  have hsound : (Tree.number (.integer n.toNat)).sound room := by simp [Tree.sound]
  rw [lengthDecoder.givenLength, Decoder.whole, if_pos hsound]
  simp only [if_pos hrange, Int.toNat_natCast, UInt32.ofNat_toNat, mapError_eq_ok_iff]

/-! ### Columns with a length -/

theorem nodup_fields : (Column.fields.map Field.name).Nodup := by
  decide

/-- The length in a draft is the length of the column that the draft describes. -/
theorem finish_length (draft : Draft) (length : Option UInt32) :
    Draft.finish { draft with length := some length } =
      draft.finish.map fun column => { column with length } := by
  unfold Draft.finish
  cases Decoder.required "name" draft.name with
  | error => rfl
  | ok name =>
    cases Decoder.required "type" draft.type with
    | error => rfl
    | ok type => rfl

/-- What comes of a column is the column that the other fields describe, with the length that is
read of the value in its place. -/
theorem exists_toOption_put (place : FieldPlace Column.fields "length") (room : Nat) :
    ∃ other : Option Column, ∀ value, (Column.decoder room (place.put value)).toOption =
      (lengthDecoder (room - 1) value).toOption.bind fun length =>
        other.map fun column => { column with length } := by
  obtain ⟨rest, hrest⟩ := exists_toOption_record_put "Column" {} Draft.finish independent_column
    nodup_fields (List.mem_of_getElem? (i := 2) rfl) place room
  refine ⟨rest.bind fun draft => draft.finish.toOption, fun value => (hrest value).trans ?_⟩
  refine Option.bind_congr fun length _ => ?_
  rw [Option.map_bind]
  refine Option.bind_congr fun draft _ => ?_
  rw [finish_length, Function.comp_apply]
  cases draft.finish with
  | error => rfl
  | ok => rfl

/-- A column that is fine without a length is read with the texts that spell one. -/
theorem decoder_put_string_eq_ok_iff {place : FieldPlace Column.fields "length"} {room : Nat}
    {column : Column} (hnull : Column.decoder room (place.put .null) = .ok column) {text : String}
    {column' : Column} :
    Column.decoder room (place.put (.string (some text))) = .ok column' ↔
      ∃ length, SpellsLength text length ∧ column' = { column with length } := by
  obtain ⟨other, hother⟩ := exists_toOption_put place room
  obtain ⟨found, rfl, rfl⟩ : ∃ found, other = some found ∧ { found with length := none } = column :=
    Option.map_eq_some_iff.1 ((hother .null).symm.trans (toOption_eq_some_iff.2 hnull))
  rw [← toOption_eq_some_iff, hother, Option.bind_eq_some_iff]
  refine exists_congr fun length => ?_
  rw [toOption_eq_some_iff, lengthDecoder_string_eq_ok_iff, Option.map_some, Option.some.injEq,
    eq_comm (a := column')]

theorem carries_length (place : FieldPlace Column.fields "length") :
    Carries lengthDecoder place.put Column.decoder :=
  carries_field independent_column nodup_fields (List.mem_of_getElem? (i := 2) rfl) place

end Column

/-! ### Documents with a length -/

theorem Model.nodup_fields : (Model.fields.map Field.name).Nodup := by
  decide

/-- A place where a document gives the length of a column: the column stands between others in a
group, and the group between others under its key. -/
structure LengthPlace where
  columns : FieldPlace Model.fields "columns"
  groupsBefore : List (Option String × Tree)
  key : String
  groupsAfter : List (Option String × Tree)
  columnsBefore : List Tree
  columnsAfter : List Tree
  length : FieldPlace Column.fields "length"

/-- The document that gives a value in this place. -/
def LengthPlace.put (place : LengthPlace) (value : Tree) : Tree :=
  place.columns.put (.object (.ofList (place.groupsBefore ++ (some place.key,
    .array (.ofList (place.columnsBefore ++ place.length.put value :: place.columnsAfter))) ::
      place.groupsAfter)))

/-- What is read of a document is made of what is read of a length in it. -/
theorem LengthPlace.carries (place : LengthPlace) :
    Carries Column.lengthDecoder place.put Model.decoder := by
  have hgroup := (Column.carries_length place.length).comp
    (carries_item _ place.columnsBefore place.columnsAfter)
  have hgroups := hgroup.comp (carries_entry _ place.key place.groupsBefore place.groupsAfter)
  exact hgroups.comp (carries_field independent_model Model.nodup_fields
    (List.mem_of_getElem? (i := 1) rfl) place.columns)

/-- A document is loaded as what is read of the tree that it holds. -/
theorem toOption_ofText {document : String} {root : Tree} (h : Holds document root) :
    (Schema.ofText document).toOption.map Schema.toModel =
      (Model.decoder nestingLimit root).toOption := by
  refine Option.ext fun model => ?_
  simp only [Option.map_eq_some_iff, toOption_eq_some_iff, ofText_eq_ok_iff]
  constructor
  · rintro ⟨schema, ⟨-, root', hroot', hdecode⟩, rfl⟩
    rwa [h.unique hroot']
  · intro hdecode
    exact ⟨{ model with source := some document }, ⟨rfl, root, h, hdecode⟩, rfl⟩

/-- A document that is not loaded is malformed. -/
theorem exists_ofText_eq_malformedSchema {document : String}
    (h : (Schema.ofText document).toOption = none) :
    ∃ cause, Schema.ofText document = .error (.malformedSchema cause) := by
  unfold Schema.ofText at h ⊢
  cases hdecode : decodeText Model.decoder document with
  | ok model =>
    rw [hdecode] at h
    cases h
  | error error => exact ⟨_, rfl⟩

/-- A length is read of a text exactly if the text spells it, alone or in a column that is fine
otherwise. A text that spells a number takes the place of the number: in a column, which is then the
same and has the same statement, and in a document. A document with a text that spells no length
is malformed. -/
theorem length_spelled (text : String) :
    (∀ room length,
      Column.lengthDecoder room (.string (some text)) = .ok length ↔
        Column.SpellsLength text length) ∧
    (∀ (place : FieldPlace Column.fields "length") (room : Nat) (column : Column),
      Column.decoder room (place.put .null) = .ok column → ∀ column',
        Column.decoder room (place.put (.string (some text))) = .ok column' ↔
          ∃ length, Column.SpellsLength text length ∧ column' = { column with length }) ∧
    (∀ n : UInt32, Column.SpellsLength text (some n) →
      (∀ (place : FieldPlace Column.fields "length") (room : Nat),
        (∀ column, Column.decoder room (place.put (.string (some text))) = .ok column ↔
          Column.decoder room (place.put (.number (.integer n.toNat))) = .ok column) ∧
        ∀ column column', Column.decoder room (place.put (.string (some text))) = .ok column →
          Column.decoder room (place.put (.number (.integer n.toNat))) = .ok column' →
            column.statement = column'.statement) ∧
      ∀ (place : LengthPlace) (document document' : String),
        Holds document (place.put (.string (some text))) →
        Holds document' (place.put (.number (.integer n.toNat))) →
          (Schema.ofText document).toOption.map Schema.toModel =
            (Schema.ofText document').toOption.map Schema.toModel) ∧
    ((∀ length, ¬ Column.SpellsLength text length) →
      ∀ (place : LengthPlace) (document : String),
        Holds document (place.put (.string (some text))) →
          ∃ cause, Schema.ofText document = .error (.malformedSchema cause)) := by
  refine ⟨fun _ _ => Column.lengthDecoder_string_eq_ok_iff,
    fun _ _ _ hnull _ => Column.decoder_put_string_eq_ok_iff hnull, fun n hn => ?_,
    fun hnone place document hholds => ?_⟩
  · -- The text and the number are read as the same length, so one can stand for the other anywhere.
    have hlength (room : Nat) : (Column.lengthDecoder room (.string (some text))).toOption =
        (Column.lengthDecoder room (.number (.integer n.toNat))).toOption := by
      rw [Column.lengthDecoder_string_eq_ok_iff.2 hn, Column.lengthDecoder_number]
    refine ⟨fun place room => ?_, fun place document document' hholds hholds' => ?_⟩
    · have hsame (column : Column) :
          Column.decoder room (place.put (.string (some text))) = .ok column ↔
            Column.decoder room (place.put (.number (.integer n.toNat))) = .ok column := by
        rw [← toOption_eq_some_iff, (Column.carries_length place).toOption_congr hlength,
          toOption_eq_some_iff]
      refine ⟨hsame, fun column column' htext hnumber => ?_⟩
      rw [(hsame column).1 htext] at hnumber
      rw [Except.ok.inj hnumber]
    · rw [toOption_ofText hholds, toOption_ofText hholds', place.carries.toOption_congr hlength]
  · have hlength (room : Nat) :
        (Column.lengthDecoder room (.string (some text))).toOption = none := by
      refine Option.eq_none_iff_forall_ne_some.2 fun length hsome => hnone length ?_
      exact Column.lengthDecoder_string_eq_ok_iff.1 (toOption_eq_some_iff.1 hsome)
    have hmodel := place.carries.toOption_eq_none hlength nestingLimit
    rw [← toOption_ofText hholds, Option.map_eq_none_iff] at hmodel
    exact exists_ofText_eq_malformedSchema hmodel

/-! ### A padded number and a word -/

/-- A document with one column, in a group of its own. -/
def oneColumn (type : String) (length : Value) : Value :=
  .object [("tables", .array []), ("columns", .object [("1", .array [
    .object [("name", .string "title"), ("type", .string type), ("length", length)]])])]

/-- The place of the length in the document. -/
def oneColumnPlace (type : String) : LengthPlace where
  columns := .member [(some "tables", .array .closed)] []
  groupsBefore := []
  key := "1"
  groupsAfter := []
  columnsBefore := []
  columnsAfter := []
  length := .member [(some "name", .string (some "title")), (some "type", .string (some type))] []

theorem holds_oneColumn (type : String) {length : Value} (h : length.Readable) :
    Holds (oneColumn type length).compact ((oneColumnPlace type).put length.tree) := by
  have hreadable : (oneColumn type length).Readable := by
    simpa [oneColumn, Value.Readable, Value.ReadableItems, Value.ReadableMembers] using h
  exact holds_of_cutInto (cutInto_compact hreadable)

/-- A padded number is read as the number, in a column and in a document. A word is refused, of a
type without a length as well. -/
theorem length_spelled_padded :
    Column.SpellsLength " +0040 " (some 40) ∧
    Column.decoder 1 ((oneColumnPlace "string").length.put (.string (some " +0040 "))) =
      .ok { name := "title", type := .string, length := some 40 } ∧
    (Schema.ofText (oneColumn "string" (.string " +0040 ")).compact).toOption.map Schema.toModel =
      (Schema.ofText (oneColumn "string" (.integer 40)).compact).toOption.map Schema.toModel ∧
    ∃ cause, Schema.ofText (oneColumn "boolean" (.string "wide")).compact =
      .error (.malformedSchema cause) := by
  obtain ⟨hread, hcolumn, hnumber, -⟩ := length_spelled " +0040 "
  obtain ⟨hread', -, -, hrefused⟩ := length_spelled "wide"
  have hspelled : Column.SpellsLength " +0040 " (some 40) :=
    (hread 1 _).1 (eq_ok_of_toOption (by decide))
  -- The length is no length in any spelling, since the decoder refuses it.
  have hnone (length : Option UInt32) : ¬ Column.SpellsLength "wide" length := by
    intro hwide
    have hok := toOption_eq_some_iff.2 ((hread' 1 length).2 hwide)
    have herror : (Column.lengthDecoder 1 (.string (some "wide"))).toOption = none := by
      decide
    rw [herror] at hok
    cases hok
  have htitle : Column.decoder 1 ((oneColumnPlace "string").length.put .null) =
      .ok { name := "title", type := .string } := eq_ok_of_toOption (by decide)
  refine ⟨hspelled, (hcolumn _ 1 _ htitle _).2 ⟨some 40, hspelled, rfl⟩, ?_, ?_⟩
  · exact (hnumber 40 hspelled).2 (oneColumnPlace "string") _ _
      (holds_oneColumn "string" (by simp [Value.Readable]))
      (holds_oneColumn "string" (by simp [Value.Readable]))
  · exact hrefused hnone (oneColumnPlace "boolean") _
      (holds_oneColumn "boolean" (by simp [Value.Readable]))

end SchemaMigration
