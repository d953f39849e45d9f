import SchemaMigration.Json.Quoted

/-!
# `SchemaMigration.Proofs.Json.QuotedText`: a written string is read back

Every character has a written form of its own, and the form is read as one piece
that stands for the character (`exists_piece`). So the written form of a text, quotes
included, is read up to its closing quote, and the pieces are the text again
(`exists_scan_encode`). What stands behind the quote is left alone.

No character is half a surrogate pair. The only numbers among the pieces are those of
control characters, so no two of them are taken for a pair.
-/

set_option autoImplicit false

namespace SchemaMigration.Json.Quoted

/-- A number below the surrogates stands for itself, whatever follows. -/
theorem join_code_cons {n : Nat} (h : n < 0xD800) (pieces : List Piece) :
    join (.code n :: pieces) = (join pieces).map (Char.ofNat n :: ·) := by
  have hhigh : isHighHalf n = false := by
    simp [isHighHalf, Nat.not_le.2 h]
  have hlow : isLowHalf n = false := by
    have : ¬ 0xDC00 ≤ n := by omega
    simp [isLowHalf, this]
  cases pieces with
  | nil => simp [join, hhigh, hlow]
  | cons piece rest => cases piece <;> simp [join, hhigh, hlow]

/-- Two digits of a control character spell its number. -/
theorem hex4?_digitChar :
    ∀ n < 0x20, hex4? '0' '0' (Nat.digitChar (n / 16)) (Nat.digitChar (n % 16)) = some n := by
  decide

/-- A short escape is read as its character. -/
theorem scan_shortEscape {c e : Char} (h : shortEscape? c = some e) (rest : List Char) :
    scan ('\\' :: c :: rest) = (scan rest).map fun read => (.char e :: read.1, read.2) := by
  rw [scan]
  · rw [h]
    cases scan rest <;> rfl
  · -- No short escape starts like the escape of a number.
    rintro _ _ _ _ _ rfl _
    cases h

/-- The written form of a character is read as one piece, which stands for the character. -/
theorem exists_piece (c : Char) :
    ∃ piece, (∀ rest, scan (encodeChar c ++ rest) =
        (scan rest).map fun read => (piece :: read.1, read.2)) ∧
      ∀ pieces, join (piece :: pieces) = (join pieces).map (c :: ·) := by
  unfold encodeChar
  split
  case h_8 quote backslash backspace feed newline carriage tab =>
    split
    · -- A control character without a short escape is read as its number.
      next hcontrol =>
      refine ⟨.code c.toNat, fun rest => ?_, fun pieces => ?_⟩
      · simp only [List.cons_append, List.nil_append, scan, hex4?_digitChar _ hcontrol]
        cases scan rest <;> rfl
      · rw [join_code_cons (by omega), Char.ofNat_toNat]
    · next hplain =>
      refine ⟨.char c, fun rest => ?_, fun pieces => rfl⟩
      rw [List.singleton_append, scan]
      · rw [if_neg (not_or.2 ⟨hplain, backslash⟩)]
        cases scan rest <;> rfl
      · exact quote
      · rintro _ _ _ _ _ rfl
        exact absurd rfl backslash
      · rintro _ _ rfl
        exact absurd rfl backslash
  -- The other characters have short escapes.
  all_goals exact ⟨.char _, scan_shortEscape rfl, fun pieces => rfl⟩

/-- A written text is read up to its closing quote. -/
theorem exists_scan_encode (text rest : List Char) :
    ∃ pieces, scan (text.flatMap encodeChar ++ '"' :: rest) = some (pieces, rest) ∧
      join pieces = some text := by
  induction text with
  | nil => exact ⟨[], by simp [scan], rfl⟩
  | cons c text ih =>
    obtain ⟨pieces, hscan, hjoin⟩ := ih
    obtain ⟨piece, hpiece, hstands⟩ := exists_piece c
    refine ⟨piece :: pieces, ?_, ?_⟩
    · rw [List.flatMap_cons, List.append_assoc, hpiece, hscan]
      rfl
    · rw [hstands, hjoin]
      rfl

end SchemaMigration.Json.Quoted
