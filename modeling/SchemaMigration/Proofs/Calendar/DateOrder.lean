import SchemaMigration.Calendar.Date

/-!
# `SchemaMigration.Proofs.Calendar.DateOrder`: dates follow their day numbers

A later day number has a later date (`ofDayNumber_before`). The year of a cycle is
settled first: `daysBefore` and `yearOfCycle` are inverse at the first and at the
last day of each of the 400 years, and `yearOfCycle` never falls.
-/

set_option autoImplicit false

namespace SchemaMigration.Calendar.Date

/-- Whether a date stands before another one: by year, then month, then day. -/
def Before (a b : Date) : Prop :=
  a.year < b.year ∨ a.year = b.year ∧
    (a.month < b.month ∨ a.month = b.month ∧ a.day < b.day)

/-! ### The year of a cycle -/

/-- A later day lies in no earlier year. -/
theorem yearOfCycle_le {d e : Nat} (h : d ≤ e) : yearOfCycle d ≤ yearOfCycle e := by
  -- The 1460th and the 36524th part of the days are dealt with apart. The day that is
  -- taken off each time is made up for by the days that have gone by.
  have hquads : d - d / 1460 ≤ e - e / 1460 := by
    rcases Nat.eq_or_lt_of_le (Nat.div_le_div_right (c := 1460) h) with heq | hlt
    · omega
    · omega
  have hcenturies : d / 36524 - d / 146096 ≤ e / 36524 - e / 146096 := by
    rw [show 146096 = 36524 * 4 from rfl, ← Nat.div_div_eq_div_mul, ← Nat.div_div_eq_div_mul]
    have hle : d / 36524 ≤ e / 36524 := Nat.div_le_div_right h
    generalize d / 36524 = a at *
    generalize e / 36524 = b at *
    omega
  unfold yearOfCycle
  apply Nat.div_le_div_right
  have hd : d / 146096 ≤ d / 36524 := Nat.div_le_div_left (by decide) (by decide)
  have he : e / 146096 ≤ e / 36524 := Nat.div_le_div_left (by decide) (by decide)
  omega

/-- The first and the last day of a year lie in it. -/
theorem yearOfCycle_ends :
    ∀ y < 400, yearOfCycle (daysBefore y) = y ∧
      (y < 399 → yearOfCycle (daysBefore (y + 1) - 1) = y) := by
  decide +kernel

/-- The years of a cycle that a cycle has. -/
theorem yearOfCycle_lt {d : Nat} (h : d < 146097) : yearOfCycle d < 400 :=
  Nat.lt_of_le_of_lt (yearOfCycle_le (Nat.le_of_lt_succ h)) (by decide)

/-- The year of a day starts no later than the day. -/
theorem daysBefore_yearOfCycle_le {d : Nat} (h : d < 146097) :
    daysBefore (yearOfCycle d) ≤ d := by
  refine Nat.le_of_not_lt fun hlt => ?_
  obtain ⟨y, hy⟩ : ∃ y, yearOfCycle d = y := ⟨_, rfl⟩
  rw [hy] at hlt
  obtain _ | y := y
  · exact absurd hlt (Nat.not_lt_zero d)
  · -- The day would lie in the year before.
    have hends := (yearOfCycle_ends y (by have := yearOfCycle_lt h; omega)).2
      (by have := yearOfCycle_lt h; omega)
    have := yearOfCycle_le (Nat.le_sub_one_of_lt hlt)
    omega

/-- A day lies before the next year of the cycle, if there is one. -/
theorem lt_daysBefore_succ {d : Nat} (hy : yearOfCycle d < 399) :
    d < daysBefore (yearOfCycle d + 1) := by
  refine Nat.lt_of_not_le fun hle => ?_
  have hends := (yearOfCycle_ends (yearOfCycle d + 1) (by omega)).1
  have := yearOfCycle_le hle
  omega

/-- A year has at most 366 days. -/
theorem dayOfYear_le {d : Nat} (h : d < 146097) : dayOfYear d ≤ 365 := by
  unfold dayOfYear
  rcases Nat.lt_or_ge (yearOfCycle d) 399 with hy | hy
  · have := lt_daysBefore_succ hy
    simp only [daysBefore] at this ⊢
    omega
  · have hlast : yearOfCycle d = 399 := by have := yearOfCycle_lt h; omega
    have : daysBefore 399 = 145731 := rfl
    rw [hlast]
    omega

/-! ### The month of a year -/

/-- A month starts no later than its days. -/
theorem monthStart_le (doy : Nat) : (153 * monthOfYear doy + 2) / 5 ≤ doy := by
  unfold monthOfYear
  omega

/-- The months of a year. -/
theorem monthOfYear_le {doy : Nat} (h : doy ≤ 365) : monthOfYear doy ≤ 11 := by
  unfold monthOfYear
  omega

/-- The days of a month. -/
theorem dayOfMonth_le (doy : Nat) : dayOfMonth doy ≤ 31 := by
  unfold dayOfMonth monthOfYear
  omega

/-- A later day of the year lies in a later month, or later in the same month. -/
theorem month_before {doy doy' : Nat} (h : doy < doy') :
    monthOfYear doy < monthOfYear doy' ∨
      monthOfYear doy = monthOfYear doy' ∧ dayOfMonth doy < dayOfMonth doy' := by
  have hle : monthOfYear doy ≤ monthOfYear doy' :=
    Nat.div_le_div_right (Nat.add_le_add_right (Nat.mul_le_mul_left 5 (Nat.le_of_lt h)) 2)
  have hstart := monthStart_le doy
  rcases Nat.eq_or_lt_of_le hle with heq | hlt
  · refine .inr ⟨heq, ?_⟩
    unfold dayOfMonth
    rw [← heq]
    omega
  · exact .inl hlt

/-! ### The date of a day number -/

/-- The day of the cycle of a day number. -/
theorem dayOfCycle_lt (n : Int) : (n % 146097).toNat < 146097 := by
  omega

/-- The fields of a date fit in two digits. -/
theorem ofDayNumber_month_day_lt (n : Int) :
    (ofDayNumber n).month < 100 ∧ (ofDayNumber n).day < 100 := by
  have hmonth := monthOfYear_le (dayOfYear_le (dayOfCycle_lt n))
  have hday := dayOfMonth_le (dayOfYear (n % 146097).toNat)
  simp only [ofDayNumber]
  split <;> constructor <;> dsimp only <;> omega

/-- A later day lies in a later year, counted from March, or later in the same year. -/
theorem year_before {n m : Int} (h : n < m) :
    400 * (n / 146097) + (yearOfCycle (n % 146097).toNat : Int) <
        400 * (m / 146097) + yearOfCycle (m % 146097).toNat ∨
      400 * (n / 146097) + (yearOfCycle (n % 146097).toNat : Int) =
          400 * (m / 146097) + yearOfCycle (m % 146097).toNat ∧
        dayOfYear (n % 146097).toNat < dayOfYear (m % 146097).toNat := by
  have hn := yearOfCycle_lt (dayOfCycle_lt n)
  rcases Int.lt_or_le (n / 146097) (m / 146097) with hcycle | hcycle
  · exact .inl (by omega)
  · -- The days lie in one cycle, in which the years never fall.
    have hday : (n % 146097).toNat < (m % 146097).toNat := by omega
    have hstart := daysBefore_yearOfCycle_le (dayOfCycle_lt n)
    rcases Nat.eq_or_lt_of_le (yearOfCycle_le (Nat.le_of_lt hday)) with hyear | hyear
    · refine .inr ⟨by omega, ?_⟩
      unfold dayOfYear
      rw [← hyear]
      omega
    · exact .inl (by omega)

/-- A later day number has a later date. -/
theorem ofDayNumber_before {n m : Int} (h : n < m) : (ofDayNumber n).Before (ofDayNumber m) := by
  have hyear := year_before h
  have hn := monthOfYear_le (dayOfYear_le (dayOfCycle_lt n))
  have hm := monthOfYear_le (dayOfYear_le (dayOfCycle_lt m))
  simp only [Before, ofDayNumber]
  -- January and February belong to the next year: the months 10 and 11 of the year from
  -- March stand behind the others, and before all months of the year that follows.
  rcases hyear with hyear | ⟨hyear, hday⟩
  · split <;> split <;> dsimp only <;> omega
  · have hmonth := month_before hday
    split <;> split <;> dsimp only <;> omega

end SchemaMigration.Calendar.Date
