import Mathlib.Data.List.Basic
import SchemaMigration.Text.Digits
import SchemaMigration.Text.Literal

/-!
# `SchemaMigration.Proofs.Text.FrontReading`: what stands at the front of a text

A reader takes a part off the front of a text and leaves what follows. Three kinds of parts
are read here: a fixed mark, a quoted literal and a natural number. Each has a lemma that
says that the part is read as it was written, whatever follows it. Only a number has to be
followed by something that does not go on with it.

An optional part is looked for by its mark. It is not there when the text starts with
another mark that disagrees with it at some place (`dropPrefix?_eq_none`).

Parts of one kind are read one after the other as long as the mark in front of them comes
again (`readMany_append`).

In a quoted literal a backslash stands for itself unless a quote or a backslash follows.
A written literal has no such backslash, but a reader has to know what it would mean.
-/

set_option autoImplicit false

namespace SchemaMigration.Text

/-! ### Marks -/

/-- Neither of two marks goes on with the other. -/
def Apart (mark other : String) : Prop :=
  ¬ mark.toList <+: other.toList ∧ ¬ other.toList <+: mark.toList

instance (mark other : String) : Decidable (Apart mark other) :=
  inferInstanceAs (Decidable (_ ∧ _))

/-- The text starts with one of the marks. -/
def StartsWith (marks : List String) (text : List Char) : Prop :=
  ∃ mark ∈ marks, mark.toList <+: text

theorem startsWith_append (mark : String) (text : List Char) :
    StartsWith [mark] (mark.toList ++ text) :=
  ⟨mark, List.mem_singleton_self _, List.prefix_append _ _⟩

theorem StartsWith.cons {marks : List String} {text : List Char} (h : StartsWith marks text)
    (mark : String) : StartsWith (mark :: marks) text := by
  obtain ⟨other, hother, hprefix⟩ := h
  exact ⟨other, List.mem_cons_of_mem _ hother, hprefix⟩

/-- A mark in front is taken off. -/
theorem dropPrefix?_append (mark : String) (text : List Char) :
    (mark.toList ++ text).dropPrefix? mark.toList = some text :=
  List.dropPrefix?_append_of_beq text (beq_self_eq_true _)

/-- A mark is not in front of a text that starts with one that disagrees with it. -/
theorem dropPrefix?_eq_none {mark : String} {marks : List String} {text : List Char}
    (h : StartsWith marks text) (hapart : ∀ other ∈ marks, Apart mark other) :
    text.dropPrefix? mark.toList = none := by
  rw [Option.eq_none_iff_forall_ne_some]
  intro rest hrest
  obtain ⟨front, rfl, hfront⟩ := List.dropPrefix?_eq_some_iff.1 hrest
  obtain rfl := eq_of_beq hfront
  obtain ⟨other, hother, hprefix⟩ := h
  obtain ⟨hmark, hcontrary⟩ := hapart other hother
  -- Of two beginnings of one text the shorter is the beginning of the other.
  rcases List.prefix_or_prefix_of_prefix hprefix (List.prefix_append _ rest) with hle | hle
  · exact hcontrary hle
  · exact hmark hle

/-! ### Quoted literals -/

/-- Reads an escaped text up to the quote that closes it. -/
def readEscaped : List Char → Option (List Char × List Char)
  | [] => none
  | '\'' :: rest => some ([], rest)
  | '\\' :: '\'' :: rest => (readEscaped rest).map fun read => ('\'' :: read.1, read.2)
  | '\\' :: '\\' :: rest => (readEscaped rest).map fun read => ('\\' :: read.1, read.2)
  | c :: rest => (readEscaped rest).map fun read => (c :: read.1, read.2)

/-- Reads a quoted literal. The result is the text that it denotes. -/
def readQuoted : List Char → Option (String × List Char)
  | '\'' :: rest => (readEscaped rest).map fun read => (String.ofList read.1, read.2)
  | _ => none

/-- An escaped text is read up to its closing quote. -/
theorem readEscaped_escape (text rest : List Char) :
    readEscaped (escape text ++ quote :: rest) = some (text, rest) := by
  induction text with
  | nil => rfl
  | cons c text ih =>
    rw [escape]
    split
    · -- The backslash and the character behind it are read together.
      next hescaped =>
      rcases hescaped with rfl | rfl
      · rw [List.cons_append, List.cons_append, quote, backslash, readEscaped, ← quote, ih]
        rfl
      · rw [List.cons_append, List.cons_append, backslash, readEscaped, ih]
        rfl
    · next hplain =>
      obtain ⟨hquote, hbackslash⟩ := not_or.1 hplain
      rw [List.cons_append, readEscaped, ih]
      · rfl
      · exact hquote
      · exact fun _ hc => absurd hc hbackslash
      · exact fun _ hc => absurd hc hbackslash

/-- A quoted literal is read as the text that it was made of. -/
theorem readQuoted_append (text : String) (rest : List Char) :
    readQuoted ((quoted text).toList ++ rest) = some (text, rest) := by
  rw [quoted, String.toList_ofList, List.cons_append, List.append_assoc, List.singleton_append,
    quote, readQuoted, ← quote, readEscaped_escape, Option.map_some, String.ofList_toList]

/-! ### Numbers -/

theorem isDigit_of_mem_toDigits {n : Nat} {c : Char} (h : c ∈ Nat.toDigits 10 n) : c.isDigit :=
  Nat.isDigit_of_mem_toDigits (by decide) (by decide) h

theorem toList_toString (n : Nat) : (toString n).toList = Nat.toDigits 10 n :=
  Nat.toList_repr

theorem toList_toString_ofNat (n : Nat) : (toString (Int.ofNat n)).toList = Nat.toDigits 10 n :=
  Nat.toList_repr

/-- A negative integer is written with a sign in front of its digits. -/
theorem toList_toString_negSucc (n : Nat) :
    (toString (Int.negSucc n)).toList = '-' :: Nat.toDigits 10 (n + 1) := by
  rw [Int.toString_eq_repr, Int.repr, String.toList_append, Nat.toList_repr]
  rfl

/-- Reads a natural number as far as it goes. -/
def readNatural (text : List Char) : Option (Nat × List Char) :=
  let (digits, rest) := spanDigits text
  if digits.isEmpty then none else some (digitsValue digits, rest)

/-- A number is read back in front of a text that does not go on with it. -/
theorem readNatural_append (n : Nat) {rest : List Char} (h : ∀ c ∈ rest.head?, c.isDigit = false) :
    readNatural ((toString n).toList ++ rest) = some (n, rest) := by
  have hdigits : ∀ c ∈ Nat.toDigits 10 n, c.isDigit := fun _ => isDigit_of_mem_toDigits
  have hvalue : digitsValue (Nat.toDigits 10 n) = n := Nat.ofDigitChars_ten_toDigits
  rw [toList_toString, readNatural, spanDigits_append h, spanDigits_of_isDigit hdigits,
    List.nil_append]
  simp [hvalue, Nat.toDigits_ne_nil]

/-! ### Parts in a row -/

variable {α : Type}

/-- Reads parts one after the other, each behind the mark, as long as the mark comes. A part that
leaves no less than there was is refused. -/
def readMany (mark : String) (read : List Char → Option (α × List Char)) (text : List Char) :
    Option (List α × List Char) :=
  match text.dropPrefix? mark.toList with
  | none => some ([], text)
  | some inside =>
    match read inside with
    | none => none
    | some (a, rest) =>
      if _shorter : rest.length < text.length then
        (readMany mark read rest).map fun found => (a :: found.1, found.2)
      else none
termination_by text.length

/-- Parts are read back when each of them is, in front of a text without the mark. -/
theorem readMany_append {mark : String} {read : List Char → Option (α × List Char)}
    {text : α → String} {rest : List Char} (hmark : mark.toList ≠ []) (parts : List α)
    (hread : ∀ a ∈ parts, ∀ behind, read ((text a).toList ++ behind) = some (a, behind))
    (hrest : rest.dropPrefix? mark.toList = none) :
    readMany mark read (parts.flatMap (fun a => mark.toList ++ (text a).toList) ++ rest) =
      some (parts, rest) := by
  induction parts with
  | nil => rw [List.flatMap_nil, List.nil_append, readMany, hrest]
  | cons a parts ih =>
    rw [List.forall_mem_cons] at hread
    rw [List.flatMap_cons, List.append_assoc, List.append_assoc, readMany, dropPrefix?_append]
    -- The mark alone makes the text longer than what stands behind the part.
    have hshorter := List.length_pos_of_ne_nil hmark
    simp only [hread.1, ih hread.2, Option.map_some, List.length_append]
    rw [dif_pos (by omega)]

/-! ### Lines -/

/-- Lines in a row, each behind a line break. -/
theorem break_append_intercalate (line : String) (lines : List String) :
    "\n".toList ++ (String.intercalate "\n" (line :: lines)).toList =
      (line :: lines).flatMap fun line => "\n".toList ++ line.toList := by
  induction lines generalizing line with
  | nil => simp
  | cons next lines ih =>
    rw [List.flatMap_cons, ← ih next]
    simp [String.intercalate_cons_cons]

end SchemaMigration.Text
