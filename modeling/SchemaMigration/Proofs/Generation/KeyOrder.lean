import SchemaMigration.Generation.Sequencer
import SchemaMigration.Proofs.Calendar.DateOrder
import SchemaMigration.Proofs.Text.ByteOrder

/-!
# `SchemaMigration.Proofs.Generation.KeyOrder`: keys sort like their moments

A moment has a place on a line of seconds, `timeline`. The key of a later place
stands behind in byte order (`key_before`), across every change of minute, day,
month and year, and past a leap second. All keys have 17 bytes.

A key has the fields of its moment in the order of their weight, each padded to a
width of its own. `lex_key` compares two keys field by field. It stops at the first
field in which they differ.

A leap second is second 59 of its minute with a fraction of a second or more, and a
clock shows it as second 60. It shares its place on the line with the second before it.
So the place of a moment does not decide its key, but two places decide the order.

The years that have keys are those of four digits. A year outside of them has a sign
in front, and a moment in it is refused.
-/

set_option autoImplicit false

namespace SchemaMigration.Calendar.Moment

open SchemaMigration.Text

/-- The seconds from 1 March of the year 0 to a moment, without its fraction. -/
def timeline (moment : Moment) : Int :=
  86400 * moment.day + moment.second

/-- The year that a place on the line lies in. -/
def yearAt (place : Int) : Int :=
  (Date.ofDayNumber (place / 86400)).year

theorem timeline_div (moment : Moment) : moment.timeline / 86400 = moment.day := by
  have := moment.second_lt
  unfold timeline
  omega

/-- The year of a moment is the year of its place. -/
theorem year_date (moment : Moment) : moment.date.year = yearAt moment.timeline := by
  rw [yearAt, timeline_div, date]

/-- A moment has a key in the years from 0 to 9999. -/
theorem hasKey_iff (moment : Moment) :
    moment.hasKey ↔ 0 ≤ yearAt moment.timeline ∧ yearAt moment.timeline ≤ 9999 := by
  simp [hasKey, year_date]

/-! ### The fields of a key -/

theorem hour_lt (moment : Moment) : moment.hour < 100 := by
  have := moment.second_lt
  unfold hour
  omega

theorem minute_lt (moment : Moment) : moment.minute < 100 := by
  unfold minute
  omega

/-- A clock shows at most second 60. -/
theorem secondOfMinute_lt (moment : Moment) : moment.secondOfMinute < 100 := by
  have := moment.nanosecond_lt
  unfold secondOfMinute
  split at this <;> omega

/-- The clock of a later second of a day shows more. A leap second is shown as second 60, which
no other second of its minute is behind. -/
theorem clock_before {a b : Moment} (h : a.second < b.second) :
    a.hour < b.hour ∨ a.hour = b.hour ∧ (a.minute < b.minute ∨
      a.minute = b.minute ∧ a.secondOfMinute < b.secondOfMinute) := by
  -- Only second 59 of a minute can have a fraction that adds a second to the clock.
  have := a.nanosecond_lt
  unfold hour minute secondOfMinute
  split at this <;> omega

/-- The characters of a key, field by field. -/
theorem toList_key {moment : Moment} (h : moment.hasKey) :
    moment.key.toList =
      (padded 4 moment.date.year.toNat).toList ++ '_' ::
        ((padded 2 moment.date.month).toList ++ '_' ::
          ((padded 2 moment.date.day).toList ++ '_' ::
            ((padded 2 moment.hour).toList ++
              ((padded 2 moment.minute).toList ++
                ((padded 2 moment.secondOfMinute).toList ++ []))))) := by
  simp only [hasKey, Bool.and_eq_true, decide_eq_true_eq] at h
  simp [key, yearText, h]

/-- A key consists of digits and underscores. -/
theorem isDigit_or_of_mem_key {moment : Moment} (h : moment.hasKey) {c : Char}
    (hc : c ∈ moment.key.toList) : c.isDigit ∨ c = '_' := by
  rw [toList_key h] at hc
  simp only [List.mem_append, List.mem_cons, List.not_mem_nil, or_false] at hc
  rcases hc with hc | rfl | hc | rfl | hc | rfl | hc | hc | hc
  all_goals first
    | exact .inr rfl
    | exact .inl (isDigit_of_mem_padded hc)

/-- A key is an ASCII text. -/
theorem toNat_lt_of_mem_key {moment : Moment} (h : moment.hasKey) {c : Char}
    (hc : c ∈ moment.key.toList) : c.toNat < 128 := by
  rcases isDigit_or_of_mem_key h hc with hdigit | rfl
  · have := toNat_of_isDigit hdigit
    have : '0'.toNat = 48 := rfl
    omega
  · decide

/-- A key has 17 characters. -/
theorem length_toList_key {moment : Moment} (h : moment.hasKey) :
    moment.key.toList.length = 17 := by
  have hyear : moment.date.year.toNat < 10 ^ 4 := by
    simp only [hasKey, Bool.and_eq_true, decide_eq_true_eq] at h
    omega
  have hdate := Date.ofDayNumber_month_day_lt moment.day
  rw [toList_key h]
  simp only [List.length_append, List.length_cons, List.length_nil]
  rw [length_padded (by decide) hyear, length_padded (by decide) hdate.1,
    length_padded (by decide) hdate.2, length_padded (by decide) moment.hour_lt,
    length_padded (by decide) moment.minute_lt, length_padded (by decide) moment.secondOfMinute_lt]

/-- A key has 17 bytes. -/
theorem length_bytes_key {moment : Moment} (h : moment.hasKey) :
    (bytes moment.key).length = 17 := by
  have hbytes := bytes_ofList fun c => toNat_lt_of_mem_key h
  rw [String.ofList_toList] at hbytes
  rw [hbytes, List.length_map, length_toList_key h]

/-! ### Their order -/

/-- Keys stand in the order of their fields. -/
theorem lex_key {a b : Moment} (ha : a.hasKey) (hb : b.hasKey)
    (h : a.date.Before b.date ∨ a.date = b.date ∧ a.second < b.second) :
    List.Lex (· < ·) a.key.toList b.key.toList := by
  have hdatea := Date.ofDayNumber_month_day_lt a.day
  have hdateb := Date.ofDayNumber_month_day_lt b.day
  rw [toList_key ha, toList_key hb]
  simp only [hasKey, Bool.and_eq_true, decide_eq_true_eq] at ha hb
  have hclock : a.date.year.toNat < b.date.year.toNat ∨
      a.date.year.toNat = b.date.year.toNat ∧ (a.date.month < b.date.month ∨
        a.date.month = b.date.month ∧ (a.date.day < b.date.day ∨
          a.date.day = b.date.day ∧ a.second < b.second)) := by
    rcases h with h | ⟨h, hsecond⟩
    · unfold Date.Before at h
      omega
    · rw [h]
      simp [hsecond]
  -- In each step the fields differ, or they are the same and the keys behind them decide.
  refine lex_padded_append (by decide) (by omega) (by omega)
    (hclock.imp_right (And.imp_right fun hmonth => .cons ?_))
  refine lex_padded_append (by decide) hdatea.1 hdateb.1
    (hmonth.imp_right (And.imp_right fun hday => .cons ?_))
  refine lex_padded_append (by decide) hdatea.2 hdateb.2
    (hday.imp_right (And.imp_right fun hsecond => .cons ?_))
  refine lex_padded_append (by decide) a.hour_lt b.hour_lt
    ((clock_before hsecond).imp_right (And.imp_right fun hminute => ?_))
  refine lex_padded_append (by decide) a.minute_lt b.minute_lt
    (hminute.imp_right (And.imp_right fun hlast => ?_))
  exact lex_padded_append (by decide) a.secondOfMinute_lt b.secondOfMinute_lt (.inl hlast)

/-- The key of a later place on the line stands behind. -/
theorem key_before {a b : Moment} (ha : a.hasKey) (hb : b.hasKey)
    (h : a.timeline < b.timeline) : Before a.key b.key := by
  have hdays : a.date.Before b.date ∨ a.date = b.date ∧ a.second < b.second := by
    rcases Int.lt_trichotomy a.day b.day with hday | hday | hday
    · exact .inl (Date.ofDayNumber_before hday)
    · refine .inr ⟨congrArg Date.ofDayNumber hday, ?_⟩
      unfold timeline at h
      omega
    · -- A day less is more than any second of a day makes up for.
      have := a.second_lt
      have := b.second_lt
      unfold timeline at h
      omega
  have hlex := before_of_lex (fun c => toNat_lt_of_mem_key ha) (fun c => toNat_lt_of_mem_key hb)
    (lex_key ha hb hdays)
  rwa [String.ofList_toList, String.ofList_toList] at hlex

/-! ### Moments some seconds later -/

/-- A later moment lies as many seconds further on the line. -/
theorem timeline_of_addSeconds? {moment later : Moment} {seconds : Int} (hpos : 0 ≤ seconds)
    (h : moment.addSeconds? seconds = some later) :
    later.timeline = moment.timeline + seconds := by
  -- Going forwards from a leap second starts at its place, the second before it.
  have hstart : ¬ (moment.isLeap = true ∧ seconds < 0) := by omega
  unfold addSeconds? at h
  split at h
  · next hzero =>
    obtain rfl := Option.some.inj h
    omega
  · simp only [hstart, if_false, Option.ite_none_right_eq_some, Option.some.injEq] at h
    obtain ⟨-, rfl⟩ := h
    unfold timeline
    dsimp only
    omega

/-- There is a later moment in every year that has keys. -/
theorem isSome_addSeconds? {moment : Moment} {seconds : Int} (hpos : 0 ≤ seconds)
    (h : 0 ≤ yearAt (moment.timeline + seconds) ∧ yearAt (moment.timeline + seconds) ≤ 9999) :
    (moment.addSeconds? seconds).isSome := by
  unfold addSeconds?
  -- With no seconds there is nothing to add. Otherwise time goes on, and no leap second is left
  -- ahead.
  split
  · rfl
  · have hstart : ¬ (moment.isLeap = true ∧ seconds < 0) := by omega
    have hday : moment.day + ((moment.second : Int) + 0 + seconds) / 86400 =
        (moment.timeline + seconds) / 86400 := by
      unfold timeline
      omega
    simp only [hstart, if_false, isSupported, date, hday, Date.minYear, Date.maxYear]
    unfold yearAt at h
    rw [if_pos (by simp; omega)]
    rfl

end SchemaMigration.Calendar.Moment
