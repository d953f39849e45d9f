import SchemaMigration.Migration.Statement
import SchemaMigration.Proofs.Text.Literal

/-!
# `SchemaMigration.Proofs.Migration.TextLiterals`: what the literals of texts denote

A text gets into a migration as a quoted literal, or as it stands when it is a default that
spells an integer. A quoted literal is read to its closing quote and denotes its text, whatever
follows it. The two forms do not meet, since an integer does not start with a quote. So the
literal of a default tells its text (`literal_text_injective`).
-/

set_option autoImplicit false

namespace SchemaMigration

open SchemaMigration.Text (SpellsInteger isIntegerLiteral_iff quoted quoted_injective quoted_ne
  quoted_prefix_iff readQuoted readQuoted_append)

namespace DefaultValue

variable {s t : String}

/-- A default that spells an integer stands as it is. -/
theorem literal_of_spellsInteger (h : SpellsInteger s) : (text s).literal = s := by
  rw [literal, if_pos (isIntegerLiteral_iff.2 h)]

/-- Any other text is quoted. -/
theorem literal_of_not_spellsInteger (h : ¬ SpellsInteger s) : (text s).literal = quoted s := by
  rw [literal, if_neg fun hinteger => h (isIntegerLiteral_iff.1 hinteger)]

/-- Two texts have different literals as defaults. -/
theorem literal_text_injective : Function.Injective fun s => (text s).literal := by
  intro s t h
  dsimp only at h
  -- A text that spells an integer is its own literal, and begins with no quote as the others do.
  by_cases hs : SpellsInteger s
  · by_cases ht : SpellsInteger t
    · rwa [literal_of_spellsInteger hs, literal_of_spellsInteger ht] at h
    · rw [literal_of_spellsInteger hs, literal_of_not_spellsInteger ht] at h
      exact absurd h (hs.ne_quoted t)
  · by_cases ht : SpellsInteger t
    · rw [literal_of_not_spellsInteger hs, literal_of_spellsInteger ht] at h
      exact absurd h.symm (ht.ne_quoted s)
    · rw [literal_of_not_spellsInteger hs, literal_of_not_spellsInteger ht] at h
      exact quoted_injective h

/-- A quoted literal is read as its text, and what follows it is left. It denotes no other text
and is the beginning of no other literal. The literal of a text default is the text itself when
that spells an integer, and only then. Otherwise the text is read from it. No two text defaults
share a literal. -/
theorem text_literals_read :
    (∀ (value : String) (rest : List Char),
      readQuoted ((quoted value).toList ++ rest) = some (value, rest)) ∧
    Function.Injective quoted ∧
    (∀ a b : String, (quoted a).toList <+: (quoted b).toList ↔ a = b) ∧
    (∀ s : String, SpellsInteger s ∧ (text s).literal = s ∨
      ¬ SpellsInteger s ∧ (text s).literal ≠ s ∧
        ∀ rest, readQuoted ((text s).literal.toList ++ rest) = some (s, rest)) ∧
    ∀ s t : String, (text s).literal = (text t).literal ↔ s = t := by
  refine ⟨readQuoted_append, quoted_injective, fun a b => quoted_prefix_iff, fun s => ?_,
    fun s t => literal_text_injective.eq_iff⟩
  by_cases hs : SpellsInteger s
  · exact .inl ⟨hs, literal_of_spellsInteger hs⟩
  · rw [literal_of_not_spellsInteger hs]
    exact .inr ⟨hs, quoted_ne s, readQuoted_append s⟩

/-- A lone backslash in a literal stands for itself, and an escaped one does not hide the quote
behind it. -/
example : readQuoted "'C:\\tmp\\\\' . 'x'".toList = some ("C:\\tmp\\", " . 'x'".toList) := by
  decide

end DefaultValue

end SchemaMigration
