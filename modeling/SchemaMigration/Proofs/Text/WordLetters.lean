import Mathlib.Data.List.Forall2
import SchemaMigration.Proofs.Text.Literal
import SchemaMigration.Proofs.Text.PascalCase

/-!
# `SchemaMigration.Proofs.Text.WordLetters`: what capitals keep of a name

The words of a text are its letters and digits, cut into pieces: none is lost or moved
(`flatten_words`). Capitals change the case of the pieces and nothing else
(`forall₂_pascalCase`). So the class of a migration tells, when case is ignored, the letters and
digits of its name, without a trace of the underscores between them (`foldCase_className`). A
name of small letters is one word, and its class can be told without the tables of other letters
(`className_of_isLower`).
-/

set_option autoImplicit false

namespace SchemaMigration

namespace Text

/-- A text with small letters for the capitals of ASCII. Texts that differ only in the case of
such letters have the same. -/
def foldCase (text : String) : String :=
  String.ofList (text.toList.map Char.toLower)

/-- A name without its underscores. -/
def withoutUnderscores (name : String) : String :=
  String.ofList (name.toList.filter (· != '_'))

/-- Two characters are one letter, perhaps in different case, or they are the same. -/
def IsRecased (c d : Char) : Prop :=
  if c.isAlpha then d = c.toUpper ∨ d = c.toLower else d = c

@[simp] theorem foldCase_append (front back : String) :
    foldCase (front ++ back) = foldCase front ++ foldCase back := by
  simp [foldCase, String.ofList_append]

/-! ### Characters -/

/-- A fact about the characters of ASCII can be looked up for each of them. -/
theorem forall_ascii {p : Char → Bool} (h : ∀ n < 128, p (Char.ofNat n)) {c : Char}
    (hc : c.toNat < 128) : p c := by
  have := h c.toNat hc
  rwa [Char.ofNat_toNat] at this

theorem toLower_toUpper {c : Char} (h : c.toNat < 128) : c.toUpper.toLower = c.toLower :=
  eq_of_beq (forall_ascii (p := fun c => c.toUpper.toLower == c.toLower) (by decide) h)

theorem toLower_toLower {c : Char} (h : c.toNat < 128) : c.toLower.toLower = c.toLower :=
  eq_of_beq (forall_ascii (p := fun c => c.toLower.toLower == c.toLower) (by decide) h)

/-- The characters of names are of ASCII. -/
theorem toNat_lt_of_isNamePart {c : Char} (h : isNamePart c = true) : c.toNat < 128 := by
  have hle {d : Char} (hd : d.toNat < 128) (hcd : c ≤ d) : c.toNat < 128 :=
    Nat.lt_of_le_of_lt (UInt32.le_iff_toNat_le.1 (Char.le_def.1 hcd)) hd
  rcases isNamePart_iff.1 h with (⟨-, hcapital⟩ | ⟨-, hsmall⟩ | rfl) | ⟨-, hdigit⟩
  · exact hle (by decide) hcapital
  · exact hle (by decide) hsmall
  · decide
  · exact hle (by decide) hdigit

/-- In a name the letters and digits are what is left without underscores. -/
theorem isAlphanumeric_of_isNamePart {c : Char} (h : isNamePart c = true) :
    isAlphanumeric c = (c != '_') := by
  rw [isAlphanumeric_ascii (toNat_lt_of_isNamePart h)]
  by_cases hmark : c = '_'
  · subst hmark
    decide
  · rw [isNamePart, Bool.or_eq_true, beq_iff_eq] at h
    rw [h.resolve_right hmark, bne_iff_ne.2 hmark]

/-- Both forms of a letter are that letter, and other characters are their own forms. -/
theorem isRecased_forms {c : Char} (h : c.toNat < 128) :
    IsRecased c c.toUpper ∧ IsRecased c c.toLower := by
  have hfixed := forall_ascii (p := fun c => c.isAlpha || (c.toUpper == c && c.toLower == c))
    (by decide) h
  simp only [Bool.or_eq_true, Bool.and_eq_true, beq_iff_eq] at hfixed
  unfold IsRecased
  split
  · exact ⟨.inl rfl, .inr rfl⟩
  · next hletter => exact hfixed.resolve_left hletter

/-- A letter is the same in both cases when case is ignored. -/
theorem IsRecased.toLower_eq {c d : Char} (h : IsRecased c d) : d.toLower = c.toLower := by
  unfold IsRecased at h
  split at h
  · next hletter =>
    have hascii : c.toNat < 128 :=
      toNat_lt_of_isNamePart (by simp [isNamePart, Char.isAlphanum, hletter])
    rcases h with rfl | rfl
    · exact toLower_toUpper hascii
    · exact toLower_toLower hascii
  · rw [h]

/-- A character of names is one in either case. -/
theorem IsRecased.isNamePart {c d : Char} (h : IsRecased c d) (hc : isNamePart c = true) :
    Text.isNamePart d = true := by
  have hforms := forall_ascii
    (p := fun c => !Text.isNamePart c || (Text.isNamePart c.toUpper && Text.isNamePart c.toLower))
    (by decide) (toNat_lt_of_isNamePart hc)
  simp only [hc, Bool.not_true, Bool.false_or, Bool.and_eq_true] at hforms
  unfold IsRecased at h
  split at h
  · rcases h with rfl | rfl
    · exact hforms.1
    · exact hforms.2
  · rwa [h]

/-- The table of capitals has none of ASCII. -/
theorem isCapital_ascii {c : Char} (h : c.toNat < 128) : isCapital c = c.isUpper := by
  have hlow : capitalRuns.toList.all (fun run => decide (128 ≤ run.first)) = true := by
    decide
  have hnone : (capitalRuns.any fun run => run.has c.toNat) = false := by
    rw [← Array.any_toList, List.any_eq_false]
    intro run hrun
    have := of_decide_eq_true (List.all_eq_true.1 hlow run hrun)
    simp only [Run.has, Bool.and_eq_true, decide_eq_true_eq]
    omega
  rw [isCapital, hnone, Bool.or_false]

theorem toNat_lt_of_isLower {c : Char} (h : c.isLower = true) : c.toNat < 128 := by
  have hrange : c.isLower = (decide ('a'.val ≤ c.val) && decide (c.val ≤ 'z'.val)) := rfl
  rw [hrange, Bool.and_eq_true, decide_eq_true_eq, decide_eq_true_eq] at h
  exact Nat.lt_of_le_of_lt (UInt32.le_iff_toNat_le.1 h.2) (by decide)

/-- A small letter of ASCII is no capital, and is its own small form. -/
theorem forms_of_isLower {c : Char} (h : c.isLower = true) :
    isAlphanumeric c = true ∧ isCapital c = false ∧ smallOf c = [c] := by
  have hascii := toNat_lt_of_isLower h
  have hforms := forall_ascii (p := fun c => !c.isLower ||
    (c.isAlphanum && (!c.isUpper && c.toLower == c))) (by decide) hascii
  simp only [h, Bool.not_true, Bool.false_or, Bool.and_eq_true, beq_iff_eq,
    Bool.not_eq_true'] at hforms
  obtain ⟨hword, hupper, hlower⟩ := hforms
  exact ⟨isAlphanumeric_of_isAlphanum hword, (isCapital_ascii hascii).trans hupper,
    by rw [smallOf_ascii hascii, hlower]⟩

namespace PascalCase

/-! ### Words -/

/-- Runs are the letters and digits of a text, in order. -/
theorem flatten_runs (run text : List Char) :
    (runs run text).flatten = run.reverse ++ text.filter isAlphanumeric := by
  induction text generalizing run with
  | nil => simp [runs]
  | cons c rest ih =>
    rw [runs]
    split
    · next hc => simp [ih, hc]
    · next hc => simp [ih, hc]

/-- A run is cut into words without a loss. -/
theorem flatten_splitRun (seen : WordCase) (word : List Char) {run : List Char} (h : run ≠ []) :
    (splitRun seen word run).flatten = word.reverse ++ run := by
  fun_induction splitRun seen word run with
  | case1 => exact absurd rfl h
  | case2 seen word c => simp
  | case3 seen word c next rest hcut ih => simp [ih]
  | case4 seen word c next rest hcut hbefore ih => simp [ih]
  | case5 seen word c next rest hcut hbefore ih => simp [ih]

/-- The words of a text are its letters and digits, in order. -/
theorem flatten_words (text : List Char) : (words text).flatten = text.filter isAlphanumeric := by
  have hrun : List.flatten ∘ splitRun .undecided [] = id := by
    funext run
    cases run with
    | nil => rfl
    | cons c rest => exact flatten_splitRun .undecided [] (List.cons_ne_nil c rest)
  rw [words, List.flatMap_def, List.flatten_flatten, List.map_map, hrun, List.map_id, flatten_runs]
  rfl

/-- A run without capitals is one word. -/
theorem splitRun_of_no_capital (seen : WordCase) (word : List Char) {run : List Char}
    (h : run ≠ []) (hnone : ∀ c ∈ run, isCapital c = false) :
    splitRun seen word run = [word.reverse ++ run] := by
  fun_induction splitRun seen word run with
  | case1 => exact absurd rfl h
  | case2 seen word c => simp
  | case3 seen word c next rest hcut => exact absurd hcut.2 (by simp [hnone next])
  | case4 seen word c next rest hcut hbefore => exact absurd hbefore.2.1 (by simp [hnone c])
  | case5 seen word c next rest hcut hbefore ih =>
    rw [ih (List.cons_ne_nil next rest) fun d hd => hnone d (List.mem_cons_of_mem _ hd)]
    simp

/-- Letters and digits are one run. -/
theorem runs_of_isAlphanumeric (run : List Char) {text : List Char}
    (h : ∀ c ∈ text, isAlphanumeric c = true) : runs run text = [run.reverse ++ text] := by
  induction text generalizing run with
  | nil => simp [runs]
  | cons c rest ih =>
    rw [List.forall_mem_cons] at h
    rw [runs, if_pos h.1, ih (c :: run) h.2, List.reverse_cons, List.append_assoc]
    rfl

/-! ### Capitals -/

/-- In ASCII the rest of a word is in small letters. -/
theorem smallRest_ascii {word : List Char} (h : ∀ c ∈ word, c.toNat < 128) :
    smallRest word = word.map Char.toLower := by
  fun_induction smallRest word with
  | case1 => rfl
  | case2 => exact absurd (h 'Σ' List.mem_cons_self) (by decide)
  | case3 c hsigma => exact smallOf_ascii (h c List.mem_cons_self)
  | case4 c rest hrest ih =>
    rw [List.forall_mem_cons] at h
    rw [smallOf_ascii h.1, ih h.2]
    rfl

theorem smallRest_of_isLower {word : List Char} (h : ∀ c ∈ word, c.isLower = true) :
    smallRest word = word := by
  rw [smallRest_ascii fun c hc => toNat_lt_of_isLower (h c hc)]
  refine (List.map_congr_left fun c hc => ?_).trans (List.map_id word)
  have hsmall := (forms_of_isLower (h c hc)).2.2
  rw [smallOf_ascii (toNat_lt_of_isLower (h c hc))] at hsmall
  exact List.head_eq_of_cons_eq hsmall

/-- A capital in front changes the case of letters only. -/
theorem forall₂_capitalize {word : List Char} (h : ∀ c ∈ word, c.toNat < 128) :
    List.Forall₂ IsRecased word (capitalize word) := by
  cases word with
  | nil => exact .nil
  | cons c rest =>
    rw [List.forall_mem_cons] at h
    rw [capitalize, capitalOf_ascii h.1, smallRest_ascii h.2]
    exact .cons (isRecased_forms h.1).1
      (List.forall₂_map_right_iff.2
        (List.forall₂_same.2 fun d hd => (isRecased_forms (h.2 d hd)).2))

end PascalCase

/-- A name of small letters is one word. -/
theorem pascalCase_of_isLower {name : String} (h : name.toList.all Char.isLower = true) :
    pascalCase name = String.ofList (name.toList.modifyHead Char.toUpper) := by
  rw [List.all_eq_true] at h
  rw [pascalCase, PascalCase.words,
    PascalCase.runs_of_isAlphanumeric [] fun c hc => (forms_of_isLower (h c hc)).1,
    List.reverse_nil, List.nil_append, List.flatMap_singleton]
  cases hname : name.toList with
  | nil => rfl
  | cons c rest =>
    rw [hname] at h
    -- Without capitals there is one word, of which the first letter is raised and the rest stays.
    have hword := PascalCase.splitRun_of_no_capital .undecided [] (List.cons_ne_nil c rest)
      fun d hd => (forms_of_isLower (h d hd)).2.1
    rw [List.forall_mem_cons] at h
    rw [hword, List.flatMap_singleton, List.reverse_nil, List.nil_append, PascalCase.capitalize,
      capitalOf_ascii (toNat_lt_of_isLower h.1), PascalCase.smallRest_of_isLower h.2]
    rfl

/-- The capitalised words of a name are its letters and digits in order, without the underscores.
Only the case of letters is another. -/
theorem forall₂_pascalCase {name : String} (h : ∀ c ∈ name.toList, isNamePart c = true) :
    List.Forall₂ IsRecased (withoutUnderscores name).toList (pascalCase name).toList := by
  have hwords : ∀ word ∈ PascalCase.words name.toList,
      List.Forall₂ IsRecased word (PascalCase.capitalize word) := by
    intro word hword
    refine PascalCase.forall₂_capitalize fun c hc => ?_
    have hmem : c ∈ (PascalCase.words name.toList).flatten := List.mem_flatten.2 ⟨word, hword, hc⟩
    rw [PascalCase.flatten_words] at hmem
    exact toNat_lt_of_isNamePart (h c (List.mem_filter.1 hmem).1)
  -- What falls out of a name between its words are its underscores and nothing else.
  have hletters : name.toList.filter isAlphanumeric = name.toList.filter (· != '_') :=
    List.filter_congr fun c hc => isAlphanumeric_of_isNamePart (h c hc)
  rw [withoutUnderscores, pascalCase, String.toList_ofList, String.toList_ofList, ← hletters,
    ← PascalCase.flatten_words, List.flatMap_def]
  exact List.rel_flatten (List.forall₂_map_right_iff.2 (List.forall₂_same.2 hwords))

/-- Letters in either case are the same when case is ignored. -/
theorem foldCase_eq_of_forall₂ {text other : String}
    (h : List.Forall₂ IsRecased text.toList other.toList) : foldCase other = foldCase text := by
  have hsame : List.Forall₂ Eq (text.toList.map Char.toLower) (other.toList.map Char.toLower) := by
    rw [List.forall₂_map_left_iff, List.forall₂_map_right_iff]
    exact h.imp fun c d (hcase : IsRecased c d) => hcase.toLower_eq.symm
  rw [List.forall₂_eq_eq_eq] at hsame
  rw [foldCase, foldCase, hsame]

/-- Characters of names are characters of names in either case. -/
theorem isNamePart_of_forall₂ {text other : List Char} (h : List.Forall₂ IsRecased text other)
    (htext : ∀ c ∈ text, isNamePart c = true) : ∀ d ∈ other, isNamePart d = true := by
  induction h with
  | nil => exact htext
  | cons hfirst _ ih =>
    rw [List.forall_mem_cons] at htext ⊢
    exact ⟨hfirst.isNamePart htext.1, ih htext.2⟩

/-- The capitalised words of a name are its letters and digits, when case is ignored. -/
theorem foldCase_pascalCase {name : String} (h : ∀ c ∈ name.toList, isNamePart c = true) :
    foldCase (pascalCase name) = foldCase (withoutUnderscores name) :=
  foldCase_eq_of_forall₂ (forall₂_pascalCase h)

end Text

/-- The class of a name of small letters. -/
theorem className_of_isLower {name : String} (h : name.toList.all Char.isLower = true) :
    className name =
      "Create" ++ String.ofList (name.toList.modifyHead Char.toUpper) ++ "Table" := by
  rw [className, Text.pascalCase_of_isLower h]

/-- The class of a name tells its letters and digits, when case is ignored. -/
theorem foldCase_className {name : String} (h : Text.isName name = true) :
    Text.foldCase (className name) =
      "create" ++ Text.foldCase (Text.withoutUnderscores name) ++ "table" := by
  have hopening : Text.foldCase "Create" = "create" := by decide
  have hending : Text.foldCase "Table" = "table" := by decide
  rw [className, Text.foldCase_append, Text.foldCase_append, hopening, hending,
    Text.foldCase_pascalCase fun c hc => Text.isNamePart_of_isName h hc]

/-- Names of one class have the same letters and digits, when case is ignored. -/
theorem foldCase_of_className_eq {name other : String} (hname : Text.isName name = true)
    (hother : Text.isName other = true) (h : className name = className other) :
    Text.foldCase (Text.withoutUnderscores name) =
      Text.foldCase (Text.withoutUnderscores other) := by
  have hfold := congrArg Text.foldCase h
  rw [foldCase_className hname, foldCase_className hother] at hfold
  simpa only [String.append_left_inj, String.append_right_inj] using hfold

/-- The class of a name is a name. -/
theorem isName_className {name : String} (h : Text.isName name = true) :
    Text.isName (className name) = true := by
  have hparts : ∀ c ∈ (Text.withoutUnderscores name).toList, Text.isNamePart c = true := by
    intro c hc
    rw [Text.withoutUnderscores, String.toList_ofList] at hc
    exact Text.isNamePart_of_isName h (List.mem_filter.1 hc).1
  have hletters := Text.isNamePart_of_forall₂
    (Text.forall₂_pascalCase fun c hc => Text.isNamePart_of_isName h hc) hparts
  have hopening : "Create".toList = 'C' :: "reate".toList := by decide
  rw [className, Text.isName, String.toList_append, String.toList_append, hopening,
    List.cons_append, List.cons_append]
  simp only [List.all_append, List.all_eq_true.2 hletters]
  decide

end SchemaMigration
