import TableQuery.Proofs.Stamps
/-!
# The Gregorian calendar

Dates by the rules of the calendar: months of 28 to 31 days, leap years, and the date of the next day. Day
numbers count these dates from 1970-01-01 on (`dayNumber_next`), so they are in the order of the dates
(`dayNumber_lt_iff`), and every valid date is that of its number.
-/

namespace TableQuery

namespace Date

/-! ## Rules -/

/-- Years that have a 29th of February. -/
def IsLeap (y : Int) : Prop := y % 4 = 0 ∧ (y % 100 ≠ 0 ∨ y % 400 = 0)

instance (y : Int) : Decidable (IsLeap y) := inferInstanceAs (Decidable (_ ∧ _))

def daysIn (y : Int) (m : Nat) : Nat :=
  if m = 2 then if IsLeap y then 29 else 28
  else if m = 4 ∨ m = 6 ∨ m = 9 ∨ m = 11 then 30
  else 31

structure Valid (d : Date) : Prop where
  month_pos : 1 ≤ d.month
  month_le : d.month ≤ 12
  day_pos : 1 ≤ d.day
  day_le : d.day ≤ daysIn d.year d.month

/-- The date of the day after. -/
def next (d : Date) : Date :=
  if d.day < daysIn d.year d.month then { d with day := d.day + 1 }
  else if d.month < 12 then ⟨d.year, d.month + 1, 1⟩
  else ⟨d.year + 1, 1, 1⟩

/-- The order of dates, first by year, then by month and day. -/
def Before (d e : Date) : Prop :=
  d.year < e.year ∨ d.year = e.year ∧ (d.month < e.month ∨ d.month = e.month ∧ d.day < e.day)

theorem daysIn_pos (y : Int) (m : Nat) : 1 ≤ daysIn y m := by
  unfold daysIn
  repeat' split
  all_goals omega

theorem daysIn_le (y : Int) (m : Nat) : daysIn y m ≤ 31 := by
  unfold daysIn
  repeat' split
  all_goals omega

theorem valid_next {d : Date} (h : d.Valid) : d.next.Valid := by
  have hmonth := h.month_pos
  unfold next
  split
  · exact ⟨hmonth, h.month_le, Nat.le_add_left _ _, by assumption⟩
  · split
    · exact ⟨Nat.le_add_left _ _, by assumption, Nat.le_refl _, daysIn_pos _ _⟩
    · exact ⟨Nat.le_refl _, (by decide : 1 ≤ 12), Nat.le_refl _, daysIn_pos _ _⟩

/-! ## Day numbers -/

/-- Days before a year that begins in March, counted from year 0. -/
def daysBeforeMarch (y : Int) : Int := 365 * y + y / 4 - y / 100 + y / 400

theorem daysBeforeYear_era (y : Int) :
    y / 400 * 146097 + daysBeforeYear (y % 400).toNat = daysBeforeMarch y := by
  unfold daysBeforeYear daysBeforeMarch
  omega

theorem dayNumber_epoch : dayNumber ⟨1970, 1, 1⟩ = 0 := by decide

/-- The number of the first day of a month. -/
def monthStart (y : Int) (m : Nat) : Int :=
  daysBeforeMarch (if m ≤ 2 then y - 1 else y) + daysBeforeMonth ((m + 9) % 12) - epoch

theorem dayNumber_eq_monthStart {d : Date} (h : 1 ≤ d.day) :
    d.dayNumber = monthStart d.year d.month + d.day - 1 := by
  have hera := daysBeforeYear_era (if d.month ≤ 2 then d.year - 1 else d.year)
  unfold dayNumber monthStart
  dsimp only
  omega

/-- In a year that begins in March, February is the last month and has what is left. -/
theorem daysBeforeMarch_succ (y : Int) :
    daysBeforeMarch y = daysBeforeMarch (y - 1) + daysBeforeMonth 11 + daysIn y 2 := by
  have hfebruary : daysIn y 2 = if IsLeap y then 29 else 28 := rfl
  rw [hfebruary, daysBeforeMarch, daysBeforeMarch, show daysBeforeMonth 11 = 337 from rfl]
  by_cases hleap : IsLeap y
  · rw [if_pos hleap]
    unfold IsLeap at hleap
    omega
  · rw [if_neg hleap]
    unfold IsLeap at hleap
    omega

theorem daysBeforeMonth_succ (y : Int) {m : Nat} (hm : 1 ≤ m) (hlast : m ≤ 12) (hfebruary : m ≠ 2) :
    daysBeforeMonth ((m + 1 + 9) % 12) = daysBeforeMonth ((m + 9) % 12) + daysIn y m := by
  have hall : ∀ k ≤ 12, 1 ≤ k → k ≠ 2 → daysBeforeMonth ((k + 1 + 9) % 12) =
      daysBeforeMonth ((k + 9) % 12) + if k = 4 ∨ k = 6 ∨ k = 9 ∨ k = 11 then 30 else 31 := by decide
  rw [daysIn, if_neg hfebruary]
  exact hall m hlast hm hfebruary

/-- A month begins where the one before it ends. -/
theorem monthStart_succ (y : Int) {m : Nat} (hm : 1 ≤ m) (hlast : m < 12) :
    monthStart y (m + 1) = monthStart y m + daysIn y m := by
  unfold monthStart
  by_cases hfebruary : m = 2
  · rw [if_neg (by omega), if_pos (by omega), hfebruary, daysBeforeMarch_succ y,
      show daysBeforeMonth ((2 + 1 + 9) % 12) = 0 from rfl, show (2 + 9) % 12 = 11 from rfl]
    omega
  · have hyear : (if m + 1 ≤ 2 then y - 1 else y) = if m ≤ 2 then y - 1 else y := by
      split <;> split <;> omega
    rw [hyear, daysBeforeMonth_succ y hm (Nat.le_of_lt hlast) hfebruary]
    omega

/-- A year begins after the 31 days of December. -/
theorem monthStart_year (y : Int) : monthStart (y + 1) 1 = monthStart y 12 + 31 := by
  have hjanuary : daysBeforeMonth ((1 + 9) % 12) = daysBeforeMonth ((12 + 9) % 12) + 31 := rfl
  unfold monthStart
  rw [if_pos (by decide), if_neg (by decide), Int.add_sub_cancel]
  omega

/-- The next date has the next number. -/
theorem dayNumber_next {d : Date} (h : d.Valid) : d.next.dayNumber = d.dayNumber + 1 := by
  have hmonth := h.month_pos
  have hlast := h.month_le
  have hday := h.day_le
  rw [dayNumber_eq_monthStart (valid_next h).day_pos, dayNumber_eq_monthStart h.day_pos]
  unfold next
  split
  · dsimp only
    omega
  · rename_i hfull
    split
    · have hnext := monthStart_succ d.year hmonth (by assumption)
      dsimp only
      omega
    · have hdecember : d.month = 12 := by omega
      have hdays : daysIn d.year 12 = 31 := rfl
      have hnext := monthStart_year d.year
      rw [hdecember] at hday hfull ⊢
      dsimp only
      omega

/-! ## The order of dates -/

theorem monthStart_le (y : Int) {m n : Nat} (hm : 1 ≤ m) (hmn : m + 1 ≤ n) (hn : n ≤ 12) :
    monthStart y m + daysIn y m ≤ monthStart y n := by
  induction hmn with
  | refl => exact Int.le_of_eq (monthStart_succ y hm hn).symm
  | @step n hlt ih =>
    have hstep := monthStart_succ y (Nat.le_trans (Nat.le_add_left 1 m) hlt) hn
    have hprevious := ih (Nat.le_of_succ_le hn)
    rw [Nat.succ_eq_add_one, hstep]
    omega

theorem yearStart_le {y z : Int} (h : y ≤ z) : monthStart y 1 ≤ monthStart z 1 := by
  unfold monthStart daysBeforeMarch
  rw [if_pos (by decide), if_pos (by decide)]
  omega

theorem Valid.yearStart_le_dayNumber {d : Date} (h : d.Valid) : monthStart d.year 1 ≤ d.dayNumber := by
  have hday := h.day_pos
  rw [dayNumber_eq_monthStart hday]
  rcases Nat.eq_or_lt_of_le h.month_pos with hfirst | hlater
  · rw [← hfirst]
    omega
  · have hmonth := monthStart_le d.year (Nat.le_refl 1) hlater h.month_le
    omega

theorem Valid.dayNumber_lt_yearStart {d : Date} (h : d.Valid) : d.dayNumber < monthStart (d.year + 1) 1 := by
  have hday := h.day_le
  rw [dayNumber_eq_monthStart h.day_pos, monthStart_year]
  rcases Nat.eq_or_lt_of_le h.month_le with hlast | hearlier
  · have hdecember : daysIn d.year 12 = 31 := rfl
    rw [hlast] at hday ⊢
    omega
  · have hmonth := monthStart_le d.year h.month_pos hearlier (Nat.le_refl 12)
    omega

theorem dayNumber_lt {d e : Date} (hd : d.Valid) (he : e.Valid) (h : d.Before e) :
    d.dayNumber < e.dayNumber := by
  rcases h with hyear | ⟨hyear, hmonth | ⟨hmonth, hday⟩⟩
  · calc d.dayNumber
        < monthStart (d.year + 1) 1 := hd.dayNumber_lt_yearStart
      _ ≤ monthStart e.year 1 := yearStart_le hyear
      _ ≤ e.dayNumber := he.yearStart_le_dayNumber
  · have hmonths := monthStart_le d.year hd.month_pos hmonth he.month_le
    have hday := hd.day_le
    have hpos := he.day_pos
    rw [dayNumber_eq_monthStart hd.day_pos, dayNumber_eq_monthStart he.day_pos, ← hyear]
    omega
  · rw [dayNumber_eq_monthStart hd.day_pos, dayNumber_eq_monthStart he.day_pos, ← hyear, ← hmonth]
    omega

theorem eq_iff {d e : Date} : d = e ↔ d.year = e.year ∧ d.month = e.month ∧ d.day = e.day := by
  cases d
  cases e
  simp

theorem before_trichotomy (d e : Date) : d.Before e ∨ d = e ∨ e.Before d := by
  rw [eq_iff]
  unfold Before
  omega

/-- Valid dates are in the order of their numbers. -/
theorem dayNumber_lt_iff {d e : Date} (hd : d.Valid) (he : e.Valid) :
    d.dayNumber < e.dayNumber ↔ d.Before e := by
  constructor
  · intro hlt
    rcases before_trichotomy d e with h | rfl | h
    · exact h
    · exact absurd hlt (Int.lt_irrefl _)
    · exact absurd hlt (Int.lt_asymm (dayNumber_lt he hd h))
  · exact dayNumber_lt hd he

theorem dayNumber_inj {d e : Date} (hd : d.Valid) (he : e.Valid) (h : d.dayNumber = e.dayNumber) : d = e := by
  rcases before_trichotomy d e with hlt | rfl | hlt
  · exact absurd h (Int.ne_of_lt (dayNumber_lt hd he hlt))
  · rfl
  · exact absurd h.symm (Int.ne_of_lt (dayNumber_lt he hd hlt))

/-! ## The date of a number -/

/-- Only a leap year has 366 days, those of its January and February the last. -/
theorem isLeap_of_eraDay {d : Nat} (h : d < 146097) (hlast : d - daysBeforeYear (yearOfEraDay d) = 365) :
    IsLeap (yearOfEraDay d + 1) := by
  obtain ⟨c, q, r, rfl, hc, hq, hr, hera⟩ := exists_eraDay h
  rw [yearOfEraDay_eq hc hq hr hera] at hlast ⊢
  unfold daysBeforeYear at hlast
  have hquads : (100 * c + 4 * q + min 3 (r / 365)) / 4 = 25 * c + q := by omega
  have hcenturies : (100 * c + 4 * q + min 3 (r / 365)) / 100 = c := by omega
  rw [hquads, hcenturies] at hlast
  unfold IsLeap
  omega

theorem ofMarch_bounds {m : Nat} (hm : m < 12) : 1 ≤ ofMarch m ∧ ofMarch m ≤ 12 := by
  unfold ofMarch
  split <;> omega

theorem lt_daysBeforeMonth_succ (d : Nat) : d < daysBeforeMonth (monthOfYearDay d + 1) := by
  unfold monthOfYearDay daysBeforeMonth
  omega

/-- A day of a year that begins in March is a day of the month found for it. -/
theorem day_le_daysIn {d : Nat} (h : d ≤ 365) {y : Int} (hleap : d = 365 → IsLeap y) :
    d - daysBeforeMonth (monthOfYearDay d) + 1 ≤ daysIn y (ofMarch (monthOfYearDay d)) := by
  obtain ⟨hmarch, hstart⟩ := monthOfYearDay_spec h
  have hend := lt_daysBeforeMonth_succ d
  obtain ⟨hpos, hle⟩ := ofMarch_bounds hmarch
  have hback := ofMarch_add_nine hmarch
  generalize monthOfYearDay d = m at *
  by_cases hlast : m = 11
  · -- February ends with the year.
    subst hlast
    rw [show daysBeforeMonth 11 = 337 from rfl] at hstart ⊢
    by_cases hd : d = 365
    · rw [show daysIn y (ofMarch 11) = 29 from if_pos (hleap hd)]
      omega
    · have hdays : 28 ≤ daysIn y (ofMarch 11) := by
        rw [show daysIn y (ofMarch 11) = if IsLeap y then 29 else 28 from rfl]
        split <;> omega
      omega
  · have hfebruary : ofMarch m ≠ 2 := by
      unfold ofMarch
      split <;> omega
    have hlength := daysBeforeMonth_succ y hpos hle hfebruary
    have hnext : (ofMarch m + 1 + 9) % 12 = m + 1 := by omega
    rw [hnext, hback] at hlength
    omega

theorem ofDayNumber_eq (n : Int) :
    ofDayNumber n =
      let era := (n + epoch) / 146097
      let dayOfEra := ((n + epoch) % 146097).toNat
      let day := dayOfEra - daysBeforeYear (yearOfEraDay dayOfEra)
      let month := ofMarch (monthOfYearDay day)
      ⟨era * 400 + yearOfEraDay dayOfEra + (if month ≤ 2 then 1 else 0), month,
        day - daysBeforeMonth (monthOfYearDay day) + 1⟩ := rfl

theorem valid_ofDayNumber (n : Int) : (ofDayNumber n).Valid := by
  have hmod : ((n + epoch) % 146097).toNat < 146097 := by omega
  obtain ⟨-, -, hday⟩ := yearOfEraDay_spec hmod
  have hleap := isLeap_of_eraDay hmod
  obtain ⟨hmarch, -⟩ := monthOfYearDay_spec hday
  obtain ⟨hpos, hle⟩ := ofMarch_bounds hmarch
  rw [ofDayNumber_eq]
  refine ⟨hpos, hle, Nat.le_add_left _ _, day_le_daysIn hday ?_⟩
  intro hlast
  -- The last day of a leap year is the 29th of February.
  have hyear := hleap hlast
  dsimp only
  rw [hlast, if_pos (by decide)]
  unfold IsLeap at hyear ⊢
  omega

/-- Every valid date is the date of its number. -/
theorem ofDayNumber_dayNumber {d : Date} (h : d.Valid) : ofDayNumber d.dayNumber = d :=
  dayNumber_inj (valid_ofDayNumber _) h (dayNumber_ofDayNumber _)

end Date

end TableQuery
