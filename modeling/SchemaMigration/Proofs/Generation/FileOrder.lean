import SchemaMigration.Migration.Artifact
import SchemaMigration.Proofs.Generation.KeySequence

/-!
# `SchemaMigration.Proofs.Generation.FileOrder`: migration files in the order of their keys

The paths of the migrations of a run start with the keys that its sequencer handed
out, one after the other (`Sequenced`). So the paths stand in byte order
(`pairwise_before`), and none of them is the path of the snapshot.

What follows the key in a path has no say in this. The keys of two files differ and
are equally long, so the order is settled before the names of the tables are reached.
-/

set_option autoImplicit false

namespace SchemaMigration

open SchemaMigration.Calendar
open SchemaMigration.Text (Before)

/-- The files have the keys of the moments `k`, `k + 1`, … steps after the base at the front of
their paths. -/
inductive Sequenced (base : Moment) (step : Int) : Nat → List Artifact → Prop where
  | nil {k : Nat} : Sequenced base step k []
  | cons {k : Nat} {file : Artifact} {rest : List Artifact} {moment : Moment} {suffix : String}
      (hkey : moment.hasKey) (hplace : moment.timeline = base.timeline + step * k)
      (hpath : file.path = moment.key ++ suffix) (hrest : Sequenced base step (k + 1) rest) :
      Sequenced base step k (file :: rest)

namespace Sequenced

variable {base : Moment} {step : Int} {k : Nat} {file : Artifact} {files others : List Artifact}

theorem append (h : Sequenced base step k files)
    (hothers : Sequenced base step (k + files.length) others) :
    Sequenced base step k (files ++ others) := by
  induction h with
  | nil => exact hothers
  | @cons k first rest _ _ hkey hplace hpath _ ih =>
    refine .cons hkey hplace hpath (ih ?_)
    -- The other files start where these end, counted from the first or from the second.
    have hcount : k + (first :: rest).length = k + 1 + rest.length := by
      rw [List.length_cons]
      omega
    rwa [hcount] at hothers

/-- The key of a file is that of a moment some steps on. -/
theorem exists_of_mem (h : Sequenced base step k files) (hfile : file ∈ files) :
    ∃ (i : Nat) (moment : Moment) (suffix : String), k ≤ i ∧ i < k + files.length ∧
      moment.hasKey ∧ moment.timeline = base.timeline + step * i ∧
      file.path = moment.key ++ suffix := by
  induction h with
  | nil => cases hfile
  | @cons k first rest moment suffix hkey hplace hpath _ ih =>
    rcases List.mem_cons.1 hfile with rfl | hfile
    · exact ⟨k, moment, suffix, Nat.le_refl k, by simp, hkey, hplace, hpath⟩
    · obtain ⟨i, later, ending, hle, hlt, hlater⟩ := ih hfile
      exact ⟨i, later, ending, by omega, by simp only [List.length_cons]; omega, hlater⟩

/-- The moments that a sequence of files has gone through lie in years that have keys. -/
theorem inKeyYears (h : Sequenced base step k files) {i : Nat} (hi : i < files.length) :
    Moment.InKeyYears (base.timeline + step * (k + i : Nat)) := by
  induction h generalizing i with
  | nil => exact absurd hi (Nat.not_lt_zero i)
  | @cons k first rest moment suffix hkey hplace _ _ ih =>
    cases i with
    | zero =>
      rw [Nat.add_zero, ← hplace]
      exact (Moment.hasKey_iff moment).1 hkey
    | succ i =>
      have := ih (Nat.lt_of_succ_lt_succ hi)
      rwa [Nat.add_right_comm, Nat.add_assoc] at this

/-- The paths stand in byte order. -/
theorem pairwise_before (hstep : 1 ≤ step) (h : Sequenced base step k files) :
    files.Pairwise fun a b => Before a.path b.path := by
  induction h with
  | nil => exact .nil
  | @cons k first rest moment suffix hkey hplace hpath hrest ih =>
    refine .cons (fun other hother => ?_) ih
    -- A file behind has the key of a later moment, since a step takes at least a second.
    obtain ⟨i, later, ending, hle, -, hlater, hlaterPlace, hotherPath⟩ :=
      hrest.exists_of_mem hother
    have hsteps : step * k < step * i := Int.mul_lt_mul_of_pos_left (by omega) (by omega)
    have hbefore := Moment.key_before hkey hlater (by omega)
    rw [hpath, hotherPath]
    exact Text.before_append_of_before
      (by rw [Moment.length_bytes_key hkey, Moment.length_bytes_key hlater]) hbefore _ _

/-- Paths in byte order are distinct. -/
theorem nodup_paths (hstep : 1 ≤ step) (h : Sequenced base step k files) :
    (files.map (·.path)).Nodup := by
  rw [List.Nodup, List.pairwise_map]
  refine (h.pairwise_before hstep).imp fun hbefore heq => ?_
  rw [heq] at hbefore
  exact Text.not_before_self _ hbefore

/-- The path of the snapshot does not start with a key. -/
theorem snapshotName_not_mem (h : Sequenced base step k files) :
    snapshotName ∉ files.map (·.path) := by
  intro hmem
  obtain ⟨file, hfile, hname⟩ := List.mem_map.1 hmem
  obtain ⟨-, moment, suffix, -, -, hkey, -, hpath⟩ := h.exists_of_mem hfile
  have hsplit : snapshotName.toList = moment.key.toList ++ suffix.toList := by
    rw [← String.toList_append, ← hpath, hname]
  have hlength := Moment.length_toList_key hkey
  -- A name of eleven characters has no room for a key.
  have := congrArg List.length hsplit
  rw [List.length_append, hlength] at this
  have hshort : snapshotName.toList.length = 11 := rfl
  omega

end Sequenced

end SchemaMigration
