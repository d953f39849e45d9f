/-!
# `SchemaMigration.Proofs.Text.Lines`: a text between its line feeds

`lines` takes a text apart at its line feeds. A text without line feeds is one line
(`lines_eq_singleton_iff`), and a line feed between two texts puts the lines of the one in
front of those of the other (`lines_append`). So the lines of texts that are joined by line
feeds are the lines of each of them, in order (`lines_intercalate`), and these are the texts
themselves only if none of them has a line feed (`flatMap_lines_eq_self_iff`).
-/

set_option autoImplicit false

namespace SchemaMigration.Text

/-- What stands in a text before, between and behind its line feeds. -/
def lines (text : String) : List String :=
  (text.toList.splitOn '\n').map String.ofList

theorem lines_ne_nil (text : String) : lines text ≠ [] :=
  fun h => List.splitOn_ne_nil _ _ (List.map_eq_nil_iff.1 h)

/-- The lines of two texts with a line feed between them. -/
theorem lines_append (front back : String) :
    lines (front ++ "\n" ++ back) = lines front ++ lines back := by
  have hfeed : "\n".toList = ['\n'] := rfl
  simp only [lines, String.toList_append, hfeed, List.append_assoc, List.singleton_append,
    List.splitOn_append_cons_self, List.map_append]

/-- A text is its only line when it has no line feed. -/
theorem lines_eq_singleton_iff {text : String} : lines text = [text] ↔ '\n' ∉ text.toList := by
  constructor
  · intro h hfeed
    obtain ⟨front, back, hsplit⟩ := List.append_of_mem hfeed
    have htext : text = String.ofList front ++ "\n" ++ String.ofList back := by
      rw [← String.toList_inj]
      simp [hsplit]
    -- There are lines in front of the line feed, and others behind it.
    have hlines := congrArg List.length h
    rw [htext, lines_append, List.length_append, List.length_singleton] at hlines
    have hfront := List.length_pos_iff.2 (lines_ne_nil (String.ofList front))
    have hback := List.length_pos_iff.2 (lines_ne_nil (String.ofList back))
    omega
  · intro h
    rw [lines, List.splitOn_eq_singleton h]
    simp

/-- The lines of texts with line feeds between them. -/
theorem lines_intercalate (text : String) (texts : List String) :
    lines (String.intercalate "\n" (text :: texts)) = (text :: texts).flatMap lines := by
  induction texts generalizing text with
  | nil => simp
  | cons next texts ih =>
    rw [String.intercalate_cons_cons, lines_append, ih next]
    rfl

/-- Texts have no fewer lines than they are. -/
theorem length_le_flatMap_lines (texts : List String) :
    texts.length ≤ (texts.flatMap lines).length := by
  induction texts with
  | nil => simp
  | cons text texts ih =>
    have hpos := List.length_pos_iff.2 (lines_ne_nil text)
    rw [List.flatMap_cons, List.length_append, List.length_cons]
    omega

/-- Texts are their own lines when none of them has a line feed. -/
theorem flatMap_lines_eq_self_iff {texts : List String} :
    texts.flatMap lines = texts ↔ ∀ text ∈ texts, '\n' ∉ text.toList := by
  induction texts with
  | nil => simp
  | cons text texts ih =>
    rw [List.flatMap_cons, List.forall_mem_cons, ← ih, ← lines_eq_singleton_iff]
    constructor
    · intro h
      -- Any other line of the first text would be one too many.
      have hlength := congrArg List.length h
      have hrest := length_le_flatMap_lines texts
      have hpos := List.length_pos_iff.2 (lines_ne_nil text)
      rw [List.length_append, List.length_cons] at hlength
      have hone : (lines text).length = [text].length := by
        rw [List.length_singleton]
        omega
      have happend : lines text ++ texts.flatMap lines = [text] ++ texts := h
      exact List.append_inj happend hone
    · rintro ⟨hfirst, hrest⟩
      rw [hfirst, hrest, List.singleton_append]

end SchemaMigration.Text
