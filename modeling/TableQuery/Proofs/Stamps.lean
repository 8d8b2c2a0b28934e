import TableQuery.Proofs.Decimals
import TableQuery.Assumed.Time.Instant
/-!
# Stamps read back

Every day number has a date of its own, and the stamp of an instant shows its date and its time to the
millisecond. So two instants with one stamp differ by less than a millisecond.
-/

namespace TableQuery

/-! ## Dates -/

namespace Date

/-- A day of an era by its century, its four years of the century, and its day of these. Only the last
four years of an era have a leap day where a century ends. -/
theorem exists_eraDay {d : Nat} (h : d < 146097) :
    ∃ c q r, d = 36524 * c + 1461 * q + r ∧ c ≤ 3 ∧ q ≤ 24 ∧ r ≤ 1460 ∧ (q = 24 → r = 1460 → c = 3) := by
  refine ⟨min 3 (d / 36524), min 24 ((d - 36524 * min 3 (d / 36524)) / 1461),
    d - 36524 * min 3 (d / 36524) - 1461 * min 24 ((d - 36524 * min 3 (d / 36524)) / 1461), ?_⟩
  omega

theorem yearOfEraDay_eq {c q r : Nat} (hc : c ≤ 3) (hq : q ≤ 24) (hr : r ≤ 1460)
    (hlast : q = 24 → r = 1460 → c = 3) :
    yearOfEraDay (36524 * c + 1461 * q + r) = 100 * c + 4 * q + min 3 (r / 365) := by
  unfold yearOfEraDay
  -- Days in 1460s count four years each, one day late by then.
  have hquads : (36524 * c + 1461 * q + r) / 1460 = 25 * c + q + (24 * c + q + r) / 1460 := by omega
  have hcenturies : (36524 * c + 1461 * q + r) / 36524 - (36524 * c + 1461 * q + r) / 146096 = c := by
    omega
  have hmost : (36524 * c + 1461 * q + r) / 146096 ≤ (36524 * c + 1461 * q + r) / 36524 := by omega
  omega

/-- The year found for a day of an era begins no later than that day, and has it. -/
theorem yearOfEraDay_spec {d : Nat} (h : d < 146097) :
    yearOfEraDay d < 400 ∧ daysBeforeYear (yearOfEraDay d) ≤ d ∧
      d - daysBeforeYear (yearOfEraDay d) ≤ 365 := by
  obtain ⟨c, q, r, rfl, hc, hq, hr, hlast⟩ := exists_eraDay h
  rw [yearOfEraDay_eq hc hq hr hlast]
  unfold daysBeforeYear
  have hquads : (100 * c + 4 * q + min 3 (r / 365)) / 4 = 25 * c + q := by omega
  have hcenturies : (100 * c + 4 * q + min 3 (r / 365)) / 100 = c := by omega
  rw [hquads, hcenturies]
  omega

theorem monthOfYearDay_spec {d : Nat} (h : d ≤ 365) :
    monthOfYearDay d < 12 ∧ daysBeforeMonth (monthOfYearDay d) ≤ d := by
  unfold monthOfYearDay daysBeforeMonth
  omega

/-- The number of a month in a year that begins in January. -/
def ofMarch (m : Nat) : Nat := if m < 10 then m + 3 else m - 9

theorem ofMarch_add_nine {m : Nat} (hm : m < 12) : (ofMarch m + 9) % 12 = m := by
  unfold ofMarch
  split <;> omega

/-- The number of day `d` in year `y` of an era, both counted from March. -/
theorem dayNumber_march (era : Int) {y m d : Nat} (hy : y < 400) (hm : m < 12)
    (hd : daysBeforeMonth m ≤ d) :
    dayNumber ⟨era * 400 + y + (if ofMarch m ≤ 2 then 1 else 0), ofMarch m, d - daysBeforeMonth m + 1⟩ =
      era * 146097 + (daysBeforeYear y + d : Nat) - epoch := by
  have hmonth := ofMarch_add_nine hm
  have hera : (era * 400 + (y : Int)) / 400 = era := by omega
  have hyear : ((era * 400 + (y : Int)) % 400).toNat = y := by omega
  unfold dayNumber
  dsimp only
  rw [hmonth, Nat.add_sub_cancel, Nat.add_sub_cancel' hd]
  -- January and February are shown with the year after the one that began in March.
  by_cases hearly : ofMarch m ≤ 2
  · rw [if_pos hearly, if_pos hearly, Int.add_sub_cancel, hera, hyear]
  · rw [if_neg hearly, if_neg hearly, Int.add_zero, hera, hyear]

/-- The date of a day has the number of that day. -/
theorem dayNumber_ofDayNumber (n : Int) : (ofDayNumber n).dayNumber = n := by
  have hmod : ((n + epoch) % 146097).toNat < 146097 := by omega
  obtain ⟨hyear, hstart, hday⟩ := yearOfEraDay_spec hmod
  obtain ⟨hmarch, hmonth⟩ := monthOfYearDay_spec hday
  refine (dayNumber_march ((n + epoch) / 146097) hyear hmarch hmonth).trans ?_
  rw [Nat.add_sub_cancel' hstart]
  omega

theorem ofDayNumber_inj {m n : Int} (h : ofDayNumber m = ofDayNumber n) : m = n := by
  rw [← dayNumber_ofDayNumber m, h, dayNumber_ofDayNumber]

end Date

/-! ## Stamps -/

/-- Padded digits end where something else begins. -/
theorem zeroPadded_append_inj {width m n : Nat} {c : Char} {s t : List Char} (hc : c.isDigit = false)
    (h : (zeroPadded width m).toList ++ c :: s = (zeroPadded width n).toList ++ c :: t) :
    m = n ∧ s = t := by
  have hrun := run_append_inj (p := fun c => c.isDigit = true) (fun c => isDigit_of_mem_zeroPadded)
    (fun c => isDigit_of_mem_zeroPadded) (by simp [hc]) (by simp [hc]) h
  exact ⟨zeroPadded_inj (String.toList_inj.1 hrun.1), List.tail_eq_of_cons_eq hrun.2⟩

namespace Instant

/-- A leap second stands behind the last second of a minute. -/
def LeapsAtMinuteEnd (t : Instant) : Prop := 1000000000 ≤ t.nanos → t.utc.second = 59

/-- The instant cut to whole milliseconds. -/
def truncated (t : Instant) : Instant where
  seconds := t.seconds
  nanos := t.nanos / 1000000 * 1000000
  nanos_lt := Nat.lt_of_le_of_lt (Nat.div_mul_le_self _ _) t.nanos_lt

/-- A clock that shows second 60 just in a leap second shows which second of the day it is. -/
theorem clock_inj {a b m n : Nat} (hm : m < 2000000000) (hn : n < 2000000000)
    (ha : 1000000000 ≤ m → a % 60 = 59) (hb : 1000000000 ≤ n → b % 60 = 59)
    (hhour : a / 3600 = b / 3600) (hminute : a / 60 % 60 = b / 60 % 60)
    (hsecond : a % 60 + m / 1000000000 = b % 60 + n / 1000000000) :
    a = b ∧ m / 1000000000 = n / 1000000000 := by
  -- Second 59 and a leap second are both shown as 60, and no other second is.
  have hleap : m / 1000000000 = n / 1000000000 := by
    have hma : 1000000000 ≤ m ∨ m / 1000000000 = 0 := by omega
    have hnb : 1000000000 ≤ n ∨ n / 1000000000 = 0 := by omega
    omega
  exact ⟨by omega, hleap⟩

theorem toList_stamp {t : Instant} (ht : 0 ≤ t.year ∧ t.year ≤ 9999) :
    t.stamp.toList =
      (zeroPadded 4 t.year.toNat).toList ++ '-' :: ((zeroPadded 2 t.utc.date.month).toList ++
        '-' :: ((zeroPadded 2 t.utc.date.day).toList ++ 'T' :: ((zeroPadded 2 t.utc.hour).toList ++
          ':' :: ((zeroPadded 2 t.utc.minute).toList ++ ':' :: ((zeroPadded 2 t.utc.shownSecond).toList ++
            '.' :: ((zeroPadded 3 (t.utc.fraction / 1000000)).toList ++ ['Z'])))))) := by
  have hyear : LocalTime.yearText t.utc.date.year = zeroPadded 4 t.year.toNat := if_pos ht
  simp [stamp, LocalTime.dateText, LocalTime.clockText, hyear]

/-- Instants with the same stamp are the same to the millisecond. -/
theorem truncated_eq_of_stamp_eq {t u : Instant} (ht : 0 ≤ t.year ∧ t.year ≤ 9999)
    (hu : 0 ≤ u.year ∧ u.year ≤ 9999) (hleap : t.LeapsAtMinuteEnd) (hleap' : u.LeapsAtMinuteEnd)
    (h : t.stamp = u.stamp) : t.truncated = u.truncated := by
  have hlist := congrArg String.toList h
  rw [toList_stamp ht, toList_stamp hu] at hlist
  obtain ⟨hyear, hlist⟩ := zeroPadded_append_inj (by decide) hlist
  obtain ⟨hmonth, hlist⟩ := zeroPadded_append_inj (by decide) hlist
  obtain ⟨hday, hlist⟩ := zeroPadded_append_inj (by decide) hlist
  obtain ⟨hhour, hlist⟩ := zeroPadded_append_inj (by decide) hlist
  obtain ⟨hminute, hlist⟩ := zeroPadded_append_inj (by decide) hlist
  obtain ⟨hsecond, hlist⟩ := zeroPadded_append_inj (by decide) hlist
  obtain ⟨hmillis, -⟩ := zeroPadded_append_inj (by decide) hlist
  have hyear : t.utc.date.year = u.utc.date.year := by
    unfold year at ht hu hyear
    omega
  have hdate : t.utc.date = u.utc.date := (Date.mk.injEq ..).mpr ⟨hyear, hmonth, hday⟩
  have hdays : t.seconds / 86400 = u.seconds / 86400 := Date.ofDayNumber_inj hdate
  obtain ⟨hofDay, hleaps⟩ := clock_inj t.nanos_lt u.nanos_lt hleap hleap' hhour hminute hsecond
  simp only [LocalTime.fraction, utc] at hmillis
  have hseconds : t.seconds = u.seconds := by omega
  have hnanos : t.nanos / 1000000 = u.nanos / 1000000 := by omega
  simp only [truncated, hseconds, hnanos]

end Instant

end TableQuery
