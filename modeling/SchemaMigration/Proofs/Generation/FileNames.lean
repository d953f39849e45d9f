import SchemaMigration.Proofs.Generation.EmittedNames
import SchemaMigration.Proofs.Text.Cut

/-!
# `SchemaMigration.Proofs.Generation.FileNames`: the path of a migration is a name

A migration has a key, the name that it is for and an extension in its path. None of them has a
slash in it, so the path is one name. The separator stands behind the key and nowhere in it, so
what follows the key is the suffix of the migration (`suffix?_eq`), also when the name or the
extension has another separator in it. A file of the same path ends with the suffix, so it clashes
with the migration (`clashes_self`).
-/

set_option autoImplicit false

namespace SchemaMigration

/-- The separator is found behind a text that lacks the second of its characters. -/
theorem cut?_keySeparator {front : List Char} (h : 'c' ∉ front) (back : List Char) :
    Text.cut? keySeparator.toList (front ++ (keySeparator.toList ++ back)) =
      some (front, back) := by
  have hmark : keySeparator.toList = '_' :: 'c' :: "reate_".toList := by decide
  induction front with
  | nil => simp [hmark, Text.cut?]
  | cons c front ih =>
    rw [List.mem_cons, not_or] at h
    rw [List.cons_append, Text.cut?, if_neg, ih h.2]
    · rfl
    · -- Behind `c` stands a character of the front, or the first one of the separator.
      rw [hmark, List.isPrefixOf_iff_prefix, List.cons_prefix_cons, not_and]
      intro _
      cases front with
      | nil => simp
      | cons d front =>
        rw [List.mem_cons, not_or] at h
        rw [List.cons_append, List.cons_prefix_cons]
        exact fun hprefix => h.2.1 hprefix.1

/-- An extension is not empty, and has no dot and no slash of either kind in it. -/
theorem Config.isExtension_iff {extension : String} :
    isExtension extension = true ↔ extension ≠ "" ∧ '.' ∉ extension.toList ∧
      '/' ∉ extension.toList ∧ '\\' ∉ extension.toList := by
  have hmem (mark : Char) : mark ∉ extension.toList ↔ ∀ c ∈ extension.toList, c ≠ mark :=
    ⟨fun h c hc heq => h (heq ▸ hc), fun h hmem => h mark hmem rfl⟩
  simp only [isExtension, Bool.and_eq_true, List.all_eq_true, bne_iff_ne, hmem, forall_and,
    and_assoc]

namespace Artifact

variable {moment : Calendar.Moment} {extension name : String} {file : Artifact}

/-- The characters of a file name, part by part. -/
theorem toList_fileName (key name extension : String) :
    (fileName key name extension).toList =
      key.toList ++ (keySeparator.toList ++
        (name.toList ++ ("_table.".toList ++ extension.toList))) := by
  rw [fileName]
  simp only [String.toList_append, List.append_assoc]

/-- A file name is cut behind its key. -/
theorem cut?_fileName (hkey : moment.hasKey) (name extension : String) :
    Text.cut? keySeparator.toList (fileName moment.key name extension).toList =
      some (moment.key.toList, name.toList ++ ("_table.".toList ++ extension.toList)) := by
  have hletter : 'c' ∉ moment.key.toList := fun hmem =>
    (Calendar.Moment.isDigit_or_of_mem_key hkey hmem).elim (by decide) (by decide)
  rw [toList_fileName, cut?_keySeparator hletter]

/-- A file name has characters of names in it, a dot, and those of the extension. -/
theorem of_mem_fileName (hkey : moment.hasKey) (hname : Text.isName name = true) {c : Char}
    (hc : c ∈ (fileName moment.key name extension).toList) :
    Text.isNamePart c = true ∨ c = '.' ∨ c ∈ extension.toList := by
  have hfixed {text : String} (htext : text.toList.all Text.isNamePart = true)
      (hmem : c ∈ text.toList) : Text.isNamePart c = true :=
    List.all_eq_true.1 htext _ hmem
  have hdot : "_table.".toList = "_table".toList ++ ['.'] := by decide
  rw [toList_fileName, hdot] at hc
  simp only [List.mem_append, List.mem_singleton] at hc
  rcases hc with hc | hc | hc | (hc | hc) | hc
  · rcases Calendar.Moment.isDigit_or_of_mem_key hkey hc with hdigit | rfl
    · exact .inl (by simp [Text.isNamePart, Char.isAlphanum, hdigit])
    · exact .inl rfl
  · exact .inl (hfixed (by decide) hc)
  · exact .inl (Text.isNamePart_of_isName hname hc)
  · exact .inl (hfixed (by decide) hc)
  · exact .inr (.inl hc)
  · exact .inr (.inr hc)

/-- A file name has no slash in it, of neither kind. -/
theorem slash_not_mem_fileName (hkey : moment.hasKey) (hname : Text.isName name = true)
    (hextension : Config.isExtension extension = true) :
    '/' ∉ (fileName moment.key name extension).toList ∧
      '\\' ∉ (fileName moment.key name extension).toList := by
  obtain ⟨-, -, hslash, hbackslash⟩ := Config.isExtension_iff.1 hextension
  refine ⟨fun hmem => ?_, fun hmem => ?_⟩
  · rcases of_mem_fileName hkey hname hmem with hpart | hdot | hmem
    · exact absurd hpart (by decide)
    · exact absurd hdot (by decide)
    · exact hslash hmem
  · rcases of_mem_fileName hkey hname hmem with hpart | hdot | hmem
    · exact absurd hpart (by decide)
    · exact absurd hdot (by decide)
    · exact hbackslash hmem

namespace MadeFor

/-- The characters of a path, part by part. -/
theorem exists_toList_path (h : file.MadeFor extension name) :
    ∃ moment : Calendar.Moment, moment.hasKey ∧ file.path.toList =
      moment.key.toList ++ (keySeparator.toList ++
        (name.toList ++ ("_table.".toList ++ extension.toList))) := by
  obtain ⟨moment, hkey, hpath⟩ := h.path_eq
  exact ⟨moment, hkey, by rw [hpath, toList_fileName]⟩

/-- A path has a key at its front, so it is not empty. -/
theorem path_ne_empty (h : file.MadeFor extension name) : file.path ≠ "" := by
  intro hempty
  obtain ⟨moment, hkey, hpath⟩ := h.exists_toList_path
  have hlength := Calendar.Moment.length_toList_key hkey
  rw [hempty, String.toList_empty, eq_comm, List.append_eq_nil_iff] at hpath
  rw [hpath.1] at hlength
  cases hlength

/-- A path is one name. -/
theorem slash_not_mem_path (h : file.MadeFor extension name) (hname : Text.isName name = true)
    (hextension : Config.isExtension extension = true) : '/' ∉ file.path.toList := by
  obtain ⟨moment, hkey, hpath⟩ := h.path_eq
  rw [hpath]
  exact (slash_not_mem_fileName hkey hname hextension).1

/-- The suffix of a migration is what stands behind its key. -/
theorem suffix?_eq (h : file.MadeFor extension name) :
    file.suffix? = some (keySeparator ++ (name ++ ("_table." ++ extension))) := by
  obtain ⟨moment, hkey, hpath⟩ := h.path_eq
  rw [suffix?, hpath, cut?_fileName hkey]
  simp only [Option.map_some, String.ofList_append, String.ofList_toList]

/-- A migration clashes with a file of its path. -/
theorem clashes_self (h : file.MadeFor extension name) :
    Collection.clashes file.path file = true := by
  obtain ⟨moment, -, hpath⟩ := h.exists_toList_path
  rw [Collection.clashes, h.suffix?_eq, hpath]
  simp only [String.toList_append]
  rw [List.isSuffixOf_iff_suffix]
  exact List.suffix_append _ _

end MadeFor

end Artifact

end SchemaMigration
