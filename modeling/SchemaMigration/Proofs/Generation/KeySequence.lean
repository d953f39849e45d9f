import SchemaMigration.Proofs.Generation.KeyOrder

/-!
# `SchemaMigration.Proofs.Generation.KeySequence`: what a sequencer hands out

`HasIssued base step k` says that a sequencer has handed out `k` keys. Asked for
the next one it either hands out the key of the moment `k` steps after its base,
or refuses because that moment has no key, or its counter is full (`next_cases`).

The moment is reckoned from the base each time, not from the key before. So the
places of the keys are an arithmetic progression, and a refusal depends on `k` alone.

The counter is a signed number of 32 bits. It is full when it cannot count one key
more, which is after `2 ^ 31 - 1` of them.
-/

set_option autoImplicit false

namespace SchemaMigration

open SchemaMigration.Calendar

/-- Whether a place on the line lies in a year that has keys. -/
def Calendar.Moment.InKeyYears (place : Int) : Prop :=
  0 ≤ Moment.yearAt place ∧ Moment.yearAt place ≤ 9999

instance (place : Int) : Decidable (Calendar.Moment.InKeyYears place) :=
  inferInstanceAs (Decidable (_ ∧ _))

namespace Sequencer

/-- The sequencer started at `base`, goes on by `step` and has handed out `k` keys. -/
structure HasIssued (base : Moment) (step : Int) (k : Nat) (s : Sequencer) : Prop where
  base_eq : s.base = base
  step_eq : s.step = step
  issued_eq : s.issued.toInt = k

variable {base : Moment} {step : Int} {k : Nat} {s : Sequencer}

/-- A sequencer starts unless the step is too short or too long. -/
theorem start_cases (base : Moment) {step : Int} (hstep : 1 ≤ step) :
    step ≤ maxStep ∧ (∃ s, start base step = .ok s ∧ HasIssued base step 0 s) ∨
      maxStep < step ∧ ∃ fault, start base step = .error (.configuration fault) := by
  have hshort : ¬ step < 1 := by omega
  unfold start
  rw [if_neg hshort]
  split
  · next hlong => exact .inr ⟨hlong, _, rfl⟩
  · next hlong => exact .inl ⟨by omega, _, rfl, rfl, rfl, rfl⟩

/-- A sequencer whose counter is not full counts one key more. -/
theorem advance_cases (hs : HasIssued base step k s) :
    (∃ behind, s.advance = .ok behind ∧ HasIssued base step (k + 1) behind) ∨
      k + 1 = 2 ^ 31 ∧ ∃ reason, s.advance = .error (.internal reason) := by
  have hbound := Int32.toInt_lt s.issued
  have hissued := hs.issued_eq
  unfold advance
  split
  · next hfull =>
    have : Int32.maxValue.toInt = 2147483647 := rfl
    rw [hfull] at hissued
    exact .inr ⟨by omega, _, rfl⟩
  · next hfree =>
    refine .inl ⟨_, rfl, hs.base_eq, hs.step_eq, ?_⟩
    -- Below its maximum the counter counts on without wrapping around.
    have hmax : s.issued.toInt ≠ 2147483647 := fun h => hfree (Int32.toInt_inj.1 h)
    have hone : (1 : Int32).toInt = 1 := rfl
    rw [Int32.toInt_add, hone, Int.bmod_eq_of_le (by omega) (by omega)]
    omega

/-- The moment of the next key lies `k` steps after the base. -/
theorem moment?_eq (hs : HasIssued base step k s) :
    s.moment? = base.addSeconds? (step * k) := by
  rw [moment?, hs.base_eq, hs.step_eq, hs.issued_eq]

/-- A key that is handed out is that of the next moment. -/
theorem next_eq_ok {key : String} {behind : Sequencer} (h : s.next = .ok (key, behind)) :
    ∃ moment, s.moment? = some moment ∧ moment.hasKey ∧ key = moment.key := by
  unfold next at h
  split at h
  · cases h
  · next moment hmoment =>
    split at h
    · next hkey =>
      cases hadvance : s.advance with
      | error error =>
        rw [hadvance] at h
        cases h
      | ok more =>
        rw [hadvance] at h
        have hpair : (moment.key, more) = (key, behind) := Except.ok.inj h
        exact ⟨moment, hmoment, hkey, (Prod.mk.inj hpair).1.symm⟩
    · cases h

/-- What a sequencer does that has handed out `k` keys. -/
theorem next_cases (hstep : 0 ≤ step) (hs : HasIssued base step k s) :
    (∃ (moment : Moment) (behind : Sequencer),
        s.next = .ok (moment.key, behind) ∧ moment.hasKey ∧
        moment.timeline = base.timeline + step * k ∧ HasIssued base step (k + 1) behind) ∨
      (¬ Moment.InKeyYears (base.timeline + step * k) ∧
        ∃ fault, s.next = .error (.configuration fault)) ∨
      k + 1 = 2 ^ 31 ∧ Moment.InKeyYears (base.timeline + step * k) ∧
        ∃ reason, s.next = .error (.internal reason) := by
  have hpos : 0 ≤ step * (k : Int) := Int.mul_nonneg hstep (Int.natCast_nonneg k)
  unfold next
  rw [moment?_eq hs]
  split
  · next hnone =>
    -- The calendar ends far behind the years that have keys.
    refine .inr (.inl ⟨fun hyears => ?_, _, rfl⟩)
    have := Moment.isSome_addSeconds? hpos hyears
    simp [hnone] at this
  · next moment hsome =>
    have hplace := Moment.timeline_of_addSeconds? hpos hsome
    split
    · next hkey =>
      rcases advance_cases hs with ⟨behind, hadvance, hbehind⟩ | ⟨hfull, reason, hadvance⟩
      · exact .inl ⟨moment, behind, by rw [hadvance]; rfl, hkey, hplace, hbehind⟩
      · rw [Moment.hasKey_iff, hplace] at hkey
        exact .inr (.inr ⟨hfull, hkey, reason, by rw [hadvance]; rfl⟩)
    · next hkey =>
      rw [Moment.hasKey_iff, hplace] at hkey
      exact .inr (.inl ⟨hkey, _, rfl⟩)

end Sequencer

end SchemaMigration
