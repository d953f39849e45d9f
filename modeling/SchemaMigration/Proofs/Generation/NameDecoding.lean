import Mathlib.Data.List.Basic
import SchemaMigration.Proofs.Generation.Acceptance
import SchemaMigration.Proofs.Generation.FileNames
import SchemaMigration.Proofs.Generation.KeyCalls
import SchemaMigration.Proofs.Storage.Walks

/-!
# `SchemaMigration.Proofs.Generation.NameDecoding`: a file name tells its parts

The file name of a migration is a key, a name and an extension with fixed texts between them, and
each of the three may be anything that its own check lets through. A name or an extension may
have the separator in it, or the `_table` that stands behind the name. Still the parts can be
told apart (`fileName_decodes`). A key has no letters, so the first separator is the one behind the
key. Neither a name nor an extension has a dot, so the only dot is the one between them
(`ending_inj`).

A file name has no slashes. So it is one name on a path, and a file of this name lies in the
directory that it is written to, whatever the tree is.
-/

set_option autoImplicit false

namespace SchemaMigration

/-- What the file name of a migration is made of. -/
structure NameParts where
  key : String
  name : String
  extension : String
  /-- The key is one that a sequencer hands out. -/
  issued : ∃ s behind : Sequencer, s.next = .ok (key, behind)
  /-- A table may have the name, and settings may have it for the relations. -/
  isName : Text.isName name = true
  /-- There are settings with the extension that are accepted. -/
  accepted : ∃ config : Config, config.validate = .ok () ∧ config.extension = extension

namespace NameParts

variable (parts other : NameParts)

/-- The file name of a migration with these parts. -/
def path : String :=
  Artifact.fileName parts.key parts.name parts.extension

/-- The end of the file name, behind the key. -/
def suffix : String :=
  "_create_" ++ parts.name ++ "_table." ++ parts.extension

theorem exists_key_eq : ∃ moment : Calendar.Moment, moment.hasKey ∧ parts.key = moment.key := by
  obtain ⟨s, behind, hnext⟩ := parts.issued
  obtain ⟨moment, -, hkey, heq⟩ := Sequencer.next_eq_ok hnext
  exact ⟨moment, hkey, heq⟩

theorem isExtension : Config.isExtension parts.extension = true := by
  obtain ⟨config, hconfig, heq⟩ := parts.accepted
  exact heq ▸ (Generator.validate_eq_ok_iff.1 hconfig).1

/-- The file name is cut behind its key. -/
theorem cut?_path : Text.cut? keySeparator.toList parts.path.toList =
    some (parts.key.toList,
      parts.name.toList ++ ("_table.".toList ++ parts.extension.toList)) := by
  obtain ⟨moment, hkey, heq⟩ := parts.exists_key_eq
  rw [path, heq, Artifact.cut?_fileName hkey]

/-- What stands behind the separator tells the name and the extension. -/
theorem ending_inj :
    parts.name.toList ++ ("_table.".toList ++ parts.extension.toList) =
        other.name.toList ++ ("_table.".toList ++ other.extension.toList) ↔
      parts.name = other.name ∧ parts.extension = other.extension := by
  have hname : '.' ∉ parts.name.toList ++ "_table".toList := by
    rw [List.mem_append, not_or]
    exact ⟨fun hmem => absurd (Text.isNamePart_of_isName parts.isName hmem) (by decide), by decide⟩
  have hextension : '.' ∉ parts.extension.toList :=
    (Config.isExtension_iff.1 parts.isExtension).2.1
  have hsplit (name extension : String) :
      name.toList ++ ("_table.".toList ++ extension.toList) =
        (name.toList ++ "_table".toList) ++ '.' :: extension.toList := by
    have hmark : "_table.".toList = "_table".toList ++ ['.'] := by decide
    rw [hmark, List.append_assoc, List.append_assoc, List.singleton_append]
  -- The dot behind the name is the only one on either side.
  rw [hsplit, hsplit, List.append_cons_inj_of_notMem hname hextension, List.append_left_inj,
    String.toList_inj, String.toList_inj]
  exact ⟨fun h => ⟨h.1, h.2.2⟩, fun h => ⟨h.1, rfl, h.2⟩⟩

theorem path_inj : parts.path = other.path ↔
    parts.key = other.key ∧ parts.name = other.name ∧ parts.extension = other.extension := by
  constructor
  · intro h
    have hcut := parts.cut?_path
    rw [h, other.cut?_path, Option.some.injEq, Prod.mk.injEq, String.toList_inj] at hcut
    exact ⟨hcut.1.symm, (ending_inj parts other).1 hcut.2.symm⟩
  · rintro ⟨hkey, hname, hextension⟩
    rw [path, path, hkey, hname, hextension]

theorem toList_suffix : parts.suffix.toList = keySeparator.toList ++
    (parts.name.toList ++ ("_table.".toList ++ parts.extension.toList)) := by
  simp only [suffix, String.toList_append, List.append_assoc]
  rfl

theorem suffix_inj : parts.suffix = other.suffix ↔
    parts.name = other.name ∧ parts.extension = other.extension := by
  rw [← String.toList_inj, toList_suffix, toList_suffix, List.append_right_inj, ending_inj]

/-- The snapshot has no separator in its path. -/
theorem path_ne_snapshotName : parts.path ≠ snapshotName := by
  intro h
  have hcut := parts.cut?_path
  have hnone : Text.cut? keySeparator.toList snapshotName.toList = none := by decide
  rw [h, hnone] at hcut
  cases hcut

theorem slash_not_mem_path : '/' ∉ parts.path.toList ∧ '\\' ∉ parts.path.toList := by
  obtain ⟨moment, hkey, heq⟩ := parts.exists_key_eq
  rw [path, heq]
  exact Artifact.slash_not_mem_fileName hkey parts.isName parts.isExtension

theorem path_ne_empty : parts.path ≠ "" := by
  intro h
  have hcut := parts.cut?_path
  rw [h] at hcut
  cases hcut

end NameParts

open NameParts in
/-- The file name of a migration tells its parts. Its key and its suffix are read back as they were
put in. Two file names are the same only if all parts are, and two suffixes only if the names and the
extensions are. No file name is that of the snapshot. None has a slash, so it is one name on a path,
and a file of this name that is written to a directory lies there. -/
theorem fileName_decodes (parts other : NameParts) :
    (∀ content kind, Artifact.key? ⟨parts.path, content, kind⟩ = some parts.key ∧
      Artifact.suffix? ⟨parts.path, content, kind⟩ = some parts.suffix) ∧
    (parts.path = other.path ↔
      parts.key = other.key ∧ parts.name = other.name ∧ parts.extension = other.extension) ∧
    (parts.suffix = other.suffix ↔
      parts.name = other.name ∧ parts.extension = other.extension) ∧
    parts.path ≠ "schema.json" ∧
    ('/' ∉ parts.path.toList ∧ '\\' ∉ parts.path.toList ∧ Path.parts parts.path = [parts.path]) ∧
    ∀ (tree : FileTree) (directory : String) (place file : List String),
      tree.walk directory = .ok place →
        tree.writable (Path.join directory parts.path) = .ok file → file = place ++ [parts.path] := by
  obtain ⟨hslash, hbackslash⟩ := parts.slash_not_mem_path
  refine ⟨fun content kind => ⟨?_, ?_⟩, path_inj parts other, suffix_inj parts other,
    parts.path_ne_snapshotName, ⟨hslash, hbackslash, ?_⟩, ?_⟩
  · rw [Artifact.key?, parts.cut?_path]
    simp
  · rw [Artifact.suffix?, parts.cut?_path, ← String.ofList_toList (s := parts.suffix),
      toList_suffix]
    simp
  · rw [Path.parts, Path.splitSlashes_of_not_mem hslash]
    simp [parts.path_ne_empty]
  · intro tree directory place file hdirectory hwritable
    exact (FileTree.place_of_writable_join hdirectory parts.path_ne_empty hslash hwritable).1

/-- Parts with the texts in them that separate parts. The key is that of a leap second. -/
def nestedParts : NameParts where
  key := "9999_12_31_235960"
  name := "audit_create_users_table"
  extension := "_create_php"
  issued := ⟨⟨Sequencer.lastLeapSecond, 1, 0⟩, ⟨Sequencer.lastLeapSecond, 1, 1⟩,
    Outcome.eq_ok_of_toOption (by decide)⟩
  isName := by decide
  accepted := ⟨{ extension := "_create_php" }, Outcome.eq_ok_of_toOption (by decide), rfl⟩

/-- A directory to write to. -/
def outTree : FileTree where
  entries := [(["out"], .directory)]

/-- The first separator and the only dot are those between the parts. -/
theorem fileName_decodes_nested :
    nestedParts.path = "9999_12_31_235960_create_audit_create_users_table_table._create_php" ∧
      Artifact.key? ⟨nestedParts.path, "", .table⟩ = some "9999_12_31_235960" ∧
      Artifact.suffix? ⟨nestedParts.path, "", .table⟩ =
        some "_create_audit_create_users_table_table._create_php" ∧
      outTree.walk "out" = .ok ["out"] ∧
      outTree.writable (Path.join "out" nestedParts.path) = .ok ["out", nestedParts.path] := by
  obtain ⟨hparts, -, -, -, -, hwritten⟩ := fileName_decodes nestedParts nestedParts
  have henter : outTree.walk "out" = .ok ["out"] :=
    Outcome.eq_ok_of_toOption (by decide)
  obtain ⟨file, hfile⟩ : ∃ file, outTree.writable (Path.join "out" nestedParts.path) = .ok file :=
    ⟨["out", nestedParts.path], Outcome.eq_ok_of_toOption (by decide +kernel)⟩
  obtain ⟨hkey, hsuffix⟩ := hparts "" .table
  obtain rfl := hwritten outTree "out" ["out"] file henter hfile
  exact ⟨by decide, hkey, hsuffix.trans (by decide), henter, hfile⟩

end SchemaMigration
