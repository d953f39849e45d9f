import SchemaMigration.Proofs.Generation.KeyCalls

/-!
# `SchemaMigration.Proofs.Generation.KeyCounter`: keys are counted in 32 bits

The counter of a sequencer tells how many keys have been handed out, after any number of calls,
refused ones included (`hasIssued_handedOut`). It is a signed number of 32 bits, and no call looks
at it before it counts: a call is refused for its moment, or it counts one key more.

So the years must end before the counter is full. The years that have keys are 3652425 days long
(`inKeyYears_iff`), and the counter has room for `2 ^ 31 - 1` keys. With a step of 147 seconds or
more the years always end first. With a shorter step they do not when the base is early enough,
and then the call behind `2 ^ 31 - 1` keys finds a moment that has a key, and no room to count it
(`overflows_iff`).
-/

set_option autoImplicit false

namespace SchemaMigration

open SchemaMigration.Calendar
open SchemaMigration.Calendar.Moment (InKeyYears)
open SchemaMigration.Text (Before)

/-! ### The length of the years that have keys -/

namespace Calendar.Moment

/-- A later place on the line lies in no earlier year. -/
theorem yearAt_le {place later : Int} (h : place ≤ later) : yearAt place ≤ yearAt later := by
  have hday : place / 86400 ≤ later / 86400 := Int.ediv_le_ediv (by decide) h
  unfold yearAt
  rcases Int.lt_or_eq_of_le hday with hlater | hsame
  · have hbefore := Date.ofDayNumber_before hlater
    unfold Date.Before at hbefore
    omega
  · exact Int.le_of_eq (by rw [hsame])

/-- The years that have keys. The first of them begins 60 days before 1 March of the year 0, and
the 10000 of them have 3652425 days. -/
theorem inKeyYears_iff {place : Int} :
    InKeyYears place ↔ 86400 * -60 ≤ place ∧ place < 86400 * (3652425 - 60) := by
  -- The years on both sides of the two borders.
  have hbefore : yearAt (86400 * -60 - 1) = -1 := by decide
  have hfirst : yearAt (86400 * -60) = 0 := by decide
  have hlast : yearAt (86400 * (3652425 - 60) - 1) = 9999 := by decide
  have hbehind : yearAt (86400 * (3652425 - 60)) = 10000 := by decide
  rw [InKeyYears]
  constructor
  · rintro ⟨hnonneg, hle⟩
    refine ⟨Int.not_lt.1 fun hearly => ?_, Int.not_le.1 fun hlate => ?_⟩
    · have := yearAt_le (Int.le_sub_one_of_lt hearly)
      omega
    · have := yearAt_le hlate
      omega
  · rintro ⟨hearly, hlate⟩
    have hnonneg := yearAt_le hearly
    have hle := yearAt_le (Int.le_sub_one_of_lt hlate)
    omega

/-- What lies between places in years that have keys lies in such a year. -/
theorem InKeyYears.between {first place last : Int} (hfirst : InKeyYears first)
    (hlast : InKeyYears last) (hge : first ≤ place) (hle : place ≤ last) : InKeyYears place := by
  rw [inKeyYears_iff] at *
  omega

/-- A later moment that has a key lies in a year that has keys, and in each of them there is one. -/
theorem exists_addSeconds?_iff {base : Moment} {seconds : Int} (hpos : 0 ≤ seconds) :
    (∃ moment, base.addSeconds? seconds = some moment ∧ moment.hasKey) ↔
      InKeyYears (base.timeline + seconds) := by
  constructor
  · rintro ⟨moment, hmoment, hkey⟩
    rwa [hasKey_iff, timeline_of_addSeconds? hpos hmoment] at hkey
  · intro hyears
    obtain ⟨moment, hmoment⟩ := Option.isSome_iff_exists.1 (isSome_addSeconds? hpos hyears)
    refine ⟨moment, hmoment, ?_⟩
    rwa [hasKey_iff, timeline_of_addSeconds? hpos hmoment]

end Calendar.Moment

namespace Sequencer

variable {base : Moment} {step : Int} {s : Sequencer} {k : Nat}

/-! ### The count -/

/-- The number of keys that the first `n` calls hand out. -/
def handedOut (s : Sequencer) (n : Nat) : Nat :=
  (List.range n).countP fun k => (s.answer k).isOk

/-- A call that succeeds hands out one key more, and another call hands out none. -/
theorem handedOut_succ (s : Sequencer) (n : Nat) :
    s.handedOut (n + 1) = s.handedOut n + if (s.answer n).isOk then 1 else 0 := by
  rw [handedOut, List.range_succ, List.countP_append, List.countP_singleton]
  rfl

/-- The next key of a sequencer has a moment in the years that have keys, or there is none. -/
theorem HasIssued.exists_moment_iff (hs : HasIssued base step k s) (hstep : 0 ≤ step) :
    (∃ moment, s.moment? = some moment ∧ moment.hasKey) ↔
      InKeyYears (base.timeline + step * k) := by
  rw [moment?_eq hs]
  exact Moment.exists_addSeconds?_iff (Int.mul_nonneg hstep (Int.natCast_nonneg k))

/-- The counter is full when it cannot count one key more. -/
theorem HasIssued.issued_eq_maxValue_iff (hs : HasIssued base step k s) :
    s.issued = Int32.maxValue ↔ k + 1 = 2 ^ 31 := by
  have hmax : Int32.maxValue.toInt = 2147483647 := rfl
  rw [← Int32.toInt_inj, hs.issued_eq, hmax]
  omega

section Run

variable (hstep : 0 ≤ step) (hs : HasIssued base step 0 s)

include hstep hs

/-- After any number of calls a sequencer has handed out the keys that those calls were answered
with. -/
theorem hasIssued_handedOut (n : Nat) : HasIssued base step (s.handedOut n) (s.afterCalls n) := by
  induction n with
  | zero => exact hs
  | succ n ih =>
    have hcases := next_cases hstep ih
    rw [handedOut_succ, answer, afterCalls, ask]
    -- A refusal leaves the sequencer as it is, and hands out nothing.
    rcases hcases with ⟨moment, behind, hnext, -, -, hbehind⟩ | ⟨-, fault, hnext⟩ |
      ⟨-, -, reason, hnext⟩
    · rw [hnext]
      exact hbehind
    · rw [hnext]
      exact ih
    · rw [hnext]
      exact ih

/-- A call is refused since its moment has no key, or since the counter is full. -/
theorem answer_error_cases {error : Error} (h : s.answer k = .error error) :
    (¬ InKeyYears (base.timeline + step * s.handedOut k) ∧
        ∃ fault, error = .configuration fault) ∨
      s.handedOut k + 1 = 2 ^ 31 ∧ InKeyYears (base.timeline + step * s.handedOut k) ∧
        ∃ reason, error = .internal reason := by
  have hnext := (ask_eq_error h).1
  rcases next_cases hstep (hasIssued_handedOut hstep hs k) with ⟨moment, behind, hok, -⟩ |
    ⟨hyears, fault, hfault⟩ | ⟨hfull, hyears, reason, hreason⟩
  · rw [hnext] at hok
    cases hok
  · exact .inl ⟨hyears, fault, Except.error.inj (hnext.symm.trans hfault)⟩
  · exact .inr ⟨hfull, hyears, reason, Except.error.inj (hnext.symm.trans hreason)⟩

/-- As long as the moments have keys and the counter has room, all calls succeed. -/
theorem exists_answer_of_inKeyYears (hk : k < 2 ^ 31) (hfirst : InKeyYears base.timeline)
    (hlast : InKeyYears (base.timeline + step * k)) : ∀ i < k, ∃ key, s.answer i = .ok key := by
  intro i hi
  refine (exists_answer_iff hstep hs (by omega)).2 fun j hj => ?_
  have hnonneg : 0 ≤ step * (j : Int) := Int.mul_nonneg hstep (Int.natCast_nonneg j)
  have hle : step * (j : Int) ≤ step * k := Int.mul_le_mul_of_nonneg_left (by omega) hstep
  exact (Moment.exists_addSeconds?_iff hnonneg).2 (hfirst.between hlast (by omega) (by omega))

end Run

/-! ### A full counter -/

/-- Some call meets a full counter at a moment that has a key. It is not refused for its moment,
and one key more than the counter has room for is to be counted. -/
def Overflows (s : Sequencer) : Prop :=
  ∃ k moment, (s.afterCalls k).moment? = some moment ∧ moment.hasKey ∧
    (s.afterCalls k).issued = Int32.maxValue

/-- A call that meets a full counter is refused, though its moment has a key. -/
theorem answer_of_full (hstep : 0 ≤ step) (hafter : HasIssued base step k (s.afterCalls k))
    (hfull : k + 1 = 2 ^ 31) (hyears : InKeyYears (base.timeline + step * k)) :
    ∃ reason, s.answer k = .error (.internal reason) := by
  rcases next_cases hstep hafter with ⟨moment, behind, -, -, -, hbehind⟩ | ⟨hnone, -⟩ |
    ⟨-, -, reason, hnext⟩
  · -- No counter tells one key more.
    have hbound := Int32.toInt_lt behind.issued
    rw [hbehind.issued_eq] at hbound
    omega
  · exact absurd hyears hnone
  · exact ⟨reason, by rw [answer, ask, hnext]⟩

/-- The counter of a sequencer is full too early when the base and the moment `2 ^ 31 - 1` steps
later lie in years that have keys. -/
theorem overflows_iff (hstep : 0 ≤ step) (hs : HasIssued base step 0 s) :
    s.Overflows ↔
      InKeyYears base.timeline ∧ InKeyYears (base.timeline + step * (2 ^ 31 - 1)) := by
  constructor
  · rintro ⟨k, moment, hmoment, hkey, hissued⟩
    have hafter := hasIssued_handedOut hstep hs k
    have hfull := hafter.issued_eq_maxValue_iff.1 hissued
    have hlast := (hafter.exists_moment_iff hstep).1 ⟨moment, hmoment, hkey⟩
    have hcount : (s.handedOut k : Int) = 2 ^ 31 - 1 := by omega
    rw [hcount] at hlast
    refine ⟨?_, hlast⟩
    -- The first call has succeeded, or no call would have moved the counter.
    cases hanswer : s.answer 0 with
    | error error =>
      have hnone := afterCalls_of_error hanswer k
      rw [Nat.zero_add] at hnone
      rw [hnone] at hissued
      have := hs.issued_eq_maxValue_iff.1 hissued
      omega
    | ok key =>
      obtain ⟨first, hfirst, hkey, -⟩ := exists_moment_of_answer hstep hs hanswer
      have hyears := (hs.exists_moment_iff hstep).1 ⟨first, (moment?_eq hs).trans hfirst, hkey⟩
      simpa using hyears
  · rintro ⟨hfirst, hlast⟩
    obtain ⟨k, hk⟩ : ∃ k : Nat, k + 1 = 2 ^ 31 := ⟨2147483647, by decide⟩
    have hcount : (2 ^ 31 - 1 : Int) = k := by omega
    rw [hcount] at hlast
    have hafter := hasIssued_afterCalls hstep hs
      (exists_answer_of_inKeyYears hstep hs (by omega) hfirst hlast)
    obtain ⟨moment, hmoment, hkey⟩ := (hafter.exists_moment_iff hstep).2 hlast
    exact ⟨k, moment, hmoment, hkey, hafter.issued_eq_maxValue_iff.2 hk⟩

/-- The step from which on a full counter is out of reach: the years that have keys are shorter
than `2 ^ 31 - 1` steps of this length. -/
def safeStep : Int := 147

/-- With a long step the years that have keys are over before the counter is full. -/
theorem not_overflows_of_safeStep_le (h : safeStep ≤ step) (hs : HasIssued base step 0 s) :
    ¬ s.Overflows := by
  unfold safeStep at h
  rw [overflows_iff (by omega) hs, Moment.inKeyYears_iff, Moment.inKeyYears_iff]
  omega

/-- The first second that has a key. -/
def firstKeyMoment : Moment :=
  (Moment.ofFields? ⟨0, 1, 1⟩ 0 0 0 0).get (by decide)

/-- With a short step the counter is full too early when it starts with the first second that has
a key. -/
theorem overflows_of_lt_safeStep (hpos : 1 ≤ step) (h : step < safeStep)
    (hs : HasIssued firstKeyMoment step 0 s) : s.Overflows := by
  unfold safeStep at h
  have hplace : firstKeyMoment.timeline = 86400 * -60 := by decide
  rw [overflows_iff (by omega) hs, Moment.inKeyYears_iff, Moment.inKeyYears_iff]
  omega

/-- What the counter of a sequencer tells, and how far.

After any number of calls it tells how many keys they have handed out, and of two keys the later
one stands behind. A call is refused since its moment is in no year that has keys, or since the
counter is full, and nothing else. The counter is full at a moment that has a key when both the
base and the moment `2 ^ 31 - 1` steps later have one. No base comes to this exactly when the step
is at least `safeStep`. -/
theorem counter_room (hstart : start base step = .ok s) :
    (∀ n, (s.afterCalls n).count = s.handedOut n ∧ s.handedOut n < 2 ^ 31) ∧
    (∀ j k earlier key, j < k → s.answer j = .ok earlier → s.answer k = .ok key →
      Before earlier key) ∧
    (∀ k error, s.answer k = .error error →
      (¬ InKeyYears (base.timeline + step * s.handedOut k) ∧
          ∃ fault, error = .configuration fault) ∨
        s.handedOut k + 1 = 2 ^ 31 ∧ InKeyYears (base.timeline + step * s.handedOut k) ∧
          ∃ reason, error = .internal reason) ∧
    (s.Overflows ↔
      InKeyYears base.timeline ∧ InKeyYears (base.timeline + step * (2 ^ 31 - 1))) ∧
    ((∀ other t, start other step = .ok t → ¬ t.Overflows) ↔ safeStep ≤ step) := by
  obtain ⟨hpos, hs⟩ := hasIssued_start hstart
  have hstep : 0 ≤ step := by omega
  refine ⟨fun n => ?_, fun j k earlier key hjk => before_of_answer hpos hs hjk,
    fun k error => answer_error_cases hstep hs, overflows_iff hstep hs, fun hall => ?_,
    fun hsafe other t ht => ?_⟩
  · have hafter := hasIssued_handedOut hstep hs n
    have hbound := Int32.toInt_lt (s.afterCalls n).issued
    rw [hafter.issued_eq] at hbound
    exact ⟨count_eq hafter, by omega⟩
  · refine Int.not_lt.1 fun hshort => ?_
    -- The step is accepted whatever the base is.
    rcases start_cases firstKeyMoment hpos with ⟨-, t, ht, hissued⟩ | ⟨hlong, -⟩
    · exact hall firstKeyMoment t ht (overflows_of_lt_safeStep hpos hshort hissued)
    · unfold safeStep at hshort
      unfold maxStep at hlong
      omega
  · exact not_overflows_of_safeStep_le hsafe (hasIssued_start ht).2

/-- From the first second that has a key on, the counter lasts with a step of 147 seconds, and
does not with one of 146. -/
theorem counter_room_firstKeyMoment :
    (∃ s, start firstKeyMoment 147 = .ok s ∧ ¬ s.Overflows ∧
      ∀ n, (s.afterCalls n).count = s.handedOut n) ∧
    ∃ s, start firstKeyMoment 146 = .ok s ∧ s.Overflows := by
  constructor
  · obtain ⟨s, hs⟩ : ∃ s, start firstKeyMoment 147 = .ok s := ⟨_, rfl⟩
    obtain ⟨hcount, -, -, -, hsafe⟩ := counter_room hs
    exact ⟨s, hs, hsafe.2 (by decide) firstKeyMoment s hs, fun n => (hcount n).1⟩
  · obtain ⟨s, hs⟩ : ∃ s, start firstKeyMoment 146 = .ok s := ⟨_, rfl⟩
    obtain ⟨-, -, -, hoverflows, -⟩ := counter_room hs
    exact ⟨s, hs, hoverflows.2 ⟨by decide, by decide⟩⟩

/-- The first second of the year 2000. -/
def turnOfMillennium : Moment :=
  (Moment.ofFields? ⟨2000, 1, 1⟩ 0 0 0 0).get (by decide)

/-- With a key for every second from the year 2000 on, the counter is full in the year 2068. The
call behind `2 ^ 31 - 1` keys is refused, though its moment has a key. -/
theorem overflows_everySecond : ∃ s, start turnOfMillennium 1 = .ok s ∧ s.Overflows ∧
    ∃ k moment reason, k + 1 = 2 ^ 31 ∧ (∀ i < k, ∃ key, s.answer i = .ok key) ∧
      (s.afterCalls k).issued = Int32.maxValue ∧
      (s.afterCalls k).moment? = some moment ∧ moment.hasKey ∧
      moment.key = "2068_01_19_031407" ∧ s.answer k = .error (.internal reason) := by
  obtain ⟨s, hstart⟩ : ∃ s, start turnOfMillennium 1 = .ok s := ⟨_, rfl⟩
  obtain ⟨hpos, hs⟩ := hasIssued_start hstart
  have hstep : (0 : Int) ≤ 1 := by decide
  have hfirst : InKeyYears turnOfMillennium.timeline := by decide
  have hlast : InKeyYears (turnOfMillennium.timeline + 1 * 2147483647) := by decide
  have hplace : (turnOfMillennium.addSeconds? (1 * 2147483647)).map Moment.key =
      some "2068_01_19_031407" := by decide
  -- The number of calls gets a name, since nothing may count up to it.
  obtain ⟨k, hk⟩ : ∃ k : Nat, (2147483647 : Int) = k := ⟨2147483647, rfl⟩
  rw [hk] at hlast hplace
  have hanswers := exists_answer_of_inKeyYears hstep hs (by omega) hfirst hlast
  have hafter := hasIssued_afterCalls hstep hs hanswers
  have hissued := hafter.issued_eq_maxValue_iff.2 (by omega)
  obtain ⟨moment, hmoment, hkey⟩ := (hafter.exists_moment_iff hstep).2 hlast
  have hname : moment.key = "2068_01_19_031407" := by
    rw [← moment?_eq hafter, hmoment] at hplace
    exact Option.some.inj hplace
  obtain ⟨reason, hreason⟩ := answer_of_full hstep hafter (by omega) hlast
  exact ⟨s, hstart, ⟨k, moment, hmoment, hkey, hissued⟩, k, moment, reason, by omega, hanswers,
    hissued, hmoment, hkey, hname, hreason⟩

end Sequencer

end SchemaMigration
