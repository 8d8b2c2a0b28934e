import TableQuery.Literal
import TableQuery.Proofs.Calendar
/-!
# Stamps in time order

A moment has one reading in UTC, whatever calendar and clock it was read from, and the stamp shows that reading
to the millisecond. Fields of fixed width stand in a stamp from the coarsest to the finest, so stamps are in
the order of their instants (`Instant.stamp_lt_iff`), and reading the fields gives the instant back
(`Instant.ofStamp_stamp`). Only a leap second within a minute would be shown as a later one.
-/

namespace TableQuery

/-! ## The order of digits -/

/-- Behind prefixes of the same length, texts are compared where the prefixes are the same. -/
theorem append_lt_append_iff {a b s t : List Char} (h : a.length = b.length) :
    a ++ s < b ++ t ↔ a < b ∨ a = b ∧ s < t := by
  induction a generalizing b with
  | nil =>
    obtain rfl := List.length_eq_zero_iff.1 h.symm
    simp
  | cons c a ih =>
    cases b with
    | nil => cases h
    | cons d b =>
      rw [List.cons_append, List.cons_append, List.cons_lt_cons_iff, List.cons_lt_cons_iff,
        ih (Nat.succ.inj h), List.cons.injEq]
      constructor
      · rintro (h | ⟨hc, h | ⟨ha, h⟩⟩)
        · exact .inl (.inl h)
        · exact .inl (.inr ⟨hc, h⟩)
        · exact .inr ⟨⟨hc, ha⟩, h⟩
      · rintro ((h | ⟨hc, h⟩) | ⟨⟨hc, ha⟩, h⟩)
        · exact .inl h
        · exact .inr ⟨hc, .inl h⟩
        · exact .inr ⟨hc, .inr ⟨ha, h⟩⟩

theorem mul_add_lt_iff {n x y a b : Nat} (ha : a < n) (hb : b < n) :
    n * x + a < n * y + b ↔ x < y ∨ x = y ∧ a < b := by
  rcases Nat.lt_trichotomy x y with h | rfl | h
  · have hle : n * (x + 1) ≤ n * y := Nat.mul_le_mul_left n h
    rw [Nat.mul_add_one] at hle
    omega
  · omega
  · have hle : n * (y + 1) ≤ n * x := Nat.mul_le_mul_left n h
    rw [Nat.mul_add_one] at hle
    omega

/-- Quotients are compared first, then remainders, then what is left. -/
theorem div_mod_lt_iff {d : Nat} (hd : 0 < d) (a b : Nat) (q : Prop) :
    (a / d < b / d ∨ a / d = b / d ∧ (a % d < b % d ∨ a % d = b % d ∧ q)) ↔ a < b ∨ a = b ∧ q := by
  have hlt := mul_add_lt_iff (x := a / d) (y := b / d) (Nat.mod_lt a hd) (Nat.mod_lt b hd)
  rw [Nat.div_add_mod, Nat.div_add_mod] at hlt
  have heq : a = b ↔ a / d = b / d ∧ a % d = b % d := by
    constructor
    · rintro rfl
      exact ⟨rfl, rfl⟩
    · intro h
      rw [← Nat.div_add_mod a d, h.1, h.2, Nat.div_add_mod]
  rw [hlt, heq]
  by_cases hquot : a / d = b / d
  · simp [hquot]
  · simp [hquot]

theorem ofDigitChars_digit_cons (c : Char) (s : List Char) :
    Nat.ofDigitChars 10 (c :: s) 0 = tenTo s.length * (c.toNat - 48) + Nat.ofDigitChars 10 s 0 := by
  rw [Nat.ofDigitChars_cons, Nat.ofDigitChars_eq_ofDigitChars_zero]
  simp

theorem ofDigitChars_lt {s : List Char} (h : ∀ c ∈ s, c.isDigit = true) :
    Nat.ofDigitChars 10 s 0 < tenTo s.length := by
  induction s with
  | nil => simp
  | cons c s ih =>
    obtain ⟨hlow, hhigh⟩ := toNat_of_isDigit (h c List.mem_cons_self)
    have hrest := ih fun d hd => h d (List.mem_cons_of_mem c hd)
    have hmul : tenTo s.length * (c.toNat - 48) ≤ tenTo s.length * 9 := Nat.mul_le_mul_left _ (by omega)
    rw [ofDigitChars_digit_cons, show tenTo (c :: s).length = tenTo s.length * 10 from rfl]
    omega

/-- Digits of the same length are in the order of their numbers. -/
theorem digits_lt_iff {a b : List Char} (ha : ∀ c ∈ a, c.isDigit = true) (hb : ∀ c ∈ b, c.isDigit = true)
    (h : a.length = b.length) : a < b ↔ Nat.ofDigitChars 10 a 0 < Nat.ofDigitChars 10 b 0 := by
  induction a generalizing b with
  | nil =>
    obtain rfl := List.length_eq_zero_iff.1 h.symm
    simp
  | cons c a ih =>
    cases b with
    | nil => cases h
    | cons d b =>
      rw [List.forall_mem_cons] at ha hb
      have hlength : a.length = b.length := Nat.succ.inj h
      have hra := ofDigitChars_lt ha.2
      have hrb := ofDigitChars_lt hb.2
      rw [List.cons_lt_cons_iff, ih ha.2 hb.2 hlength, ofDigitChars_digit_cons, ofDigitChars_digit_cons]
      obtain ⟨hc, -⟩ := toNat_of_isDigit ha.1
      obtain ⟨hd, -⟩ := toNat_of_isDigit hb.1
      have hlt : c < d ↔ c.toNat - 48 < d.toNat - 48 := by
        rw [show c < d ↔ c.toNat < d.toNat from UInt32.lt_iff_toNat_lt]
        omega
      have heq : c = d ↔ c.toNat - 48 = d.toNat - 48 := by
        rw [← Char.toNat_inj]
        omega
      rw [hlength, mul_add_lt_iff (hlength ▸ hra) hrb, hlt, heq]

/-- A padded field decides the order, unless it is the same. -/
theorem zeroPadded_append_lt_iff {width m n : Nat} (hw : 0 < width) (hm : m < tenTo width) (hn : n < tenTo width)
    (c : Char) (s t : List Char) :
    (zeroPadded width m).toList ++ c :: s < (zeroPadded width n).toList ++ c :: t ↔
      m < n ∨ m = n ∧ s < t := by
  have hlength : (zeroPadded width m).toList.length = (zeroPadded width n).toList.length := by
    rw [length_zeroPadded hw hm, length_zeroPadded hw hn]
  have hfield : (zeroPadded width m).toList = (zeroPadded width n).toList ↔ m = n :=
    ⟨fun h => zeroPadded_inj (String.toList_inj.1 h), fun h => by rw [h]⟩
  rw [append_lt_append_iff hlength, digits_lt_iff (fun c => isDigit_of_mem_zeroPadded)
    (fun c => isDigit_of_mem_zeroPadded) hlength, ofDigitChars_zeroPadded, ofDigitChars_zeroPadded, hfield,
    List.cons_lt_cons_self]

/-! ## Readings -/

/-- What a calendar and a clock of 24 hours can show. -/
structure LocalTime.Valid (t : LocalTime) : Prop where
  date : t.date.Valid
  hour_lt : t.hour < 24
  minute_lt : t.minute < 60
  second_lt : t.second < 60

namespace LocalTime

variable {t u : LocalTime}

def secondOfDay (t : LocalTime) : Nat := t.hour * 3600 + t.minute * 60 + t.second

theorem Valid.secondOfDay_lt (h : t.Valid) : t.secondOfDay < 86400 := by
  have hhour := h.hour_lt
  have hminute := h.minute_lt
  have hsecond := h.second_lt
  unfold secondOfDay
  omega

/-- An instant has one reading in UTC. -/
theorem utc_toInstant (h : t.Valid) : (t.toInstant 0).utc = t := by
  have hlt := h.secondOfDay_lt
  have hminute := h.minute_lt
  have hsecond := h.second_lt
  have hday : (t.toInstant 0).seconds / 86400 = t.date.dayNumber := by
    simp only [toInstant, secondOfDay] at hlt ⊢
    omega
  have hclock : ((t.toInstant 0).seconds % 86400).toNat = t.secondOfDay := by
    simp only [toInstant, secondOfDay] at hlt ⊢
    omega
  obtain ⟨date, hour, minute, second, nanos, hnanos⟩ := t
  simp only [Instant.utc, hday, hclock, Date.ofDayNumber_dayNumber h.date]
  simp only [secondOfDay, toInstant, mk.injEq, true_and, and_true] at hminute hsecond ⊢
  omega

end LocalTime

namespace Instant

variable {t u : Instant}

theorem valid_utc (t : Instant) : t.utc.Valid := by
  refine ⟨Date.valid_ofDayNumber _, ?_, ?_, ?_⟩ <;> simp only [utc] <;> omega

theorem toInstant_utc (t : Instant) : t.utc.toInstant 0 = t := by
  obtain ⟨seconds, nanos, hnanos⟩ := t
  simp only [utc, LocalTime.toInstant, Date.dayNumber_ofDayNumber, mk.injEq, and_true]
  omega

/-- The fields of a stamp fit into their widths. -/
theorem fields_lt {t : Instant} (h : 0 ≤ t.year ∧ t.year ≤ 9999) :
    t.year.toNat < tenTo 4 ∧ t.utc.date.month < tenTo 2 ∧ t.utc.date.day < tenTo 2 ∧ t.utc.hour < tenTo 2 ∧
      t.utc.minute < tenTo 2 ∧ t.utc.shownSecond < tenTo 2 ∧ t.utc.fraction / 1000000 < tenTo 3 := by
  have hmonth := t.valid_utc.date.month_le
  have hday := t.valid_utc.date.day_le
  have hdays := Date.daysIn_le t.utc.date.year t.utc.date.month
  have hhour := t.valid_utc.hour_lt
  have hminute := t.valid_utc.minute_lt
  have hsecond := t.valid_utc.second_lt
  have hnanos := t.utc.nanos_lt
  simp only [show tenTo 2 = 100 from rfl, show tenTo 3 = 1000 from rfl, show tenTo 4 = 10000 from rfl,
    LocalTime.shownSecond, LocalTime.fraction]
  omega

/-! ## The order of stamps -/

/-- Each field of a stamp is compared where those before it are the same. -/
theorem stamp_lt_iff_fields (ht : 0 ≤ t.year ∧ t.year ≤ 9999) (hu : 0 ≤ u.year ∧ u.year ≤ 9999) :
    t.stamp < u.stamp ↔
      t.utc.date.Before u.utc.date ∨ t.utc.date = u.utc.date ∧
        (t.utc.hour < u.utc.hour ∨ t.utc.hour = u.utc.hour ∧
          (t.utc.minute < u.utc.minute ∨ t.utc.minute = u.utc.minute ∧
            (t.utc.shownSecond < u.utc.shownSecond ∨ t.utc.shownSecond = u.utc.shownSecond ∧
              t.utc.fraction / 1000000 < u.utc.fraction / 1000000))) := by
  obtain ⟨hyear, hmonth, hday, hhour, hminute, hsecond, hmillis⟩ := fields_lt ht
  obtain ⟨hyear', hmonth', hday', hhour', hminute', hsecond', hmillis'⟩ := fields_lt hu
  rw [String.lt_iff, toList_stamp ht, toList_stamp hu, zeroPadded_append_lt_iff (by decide) hyear hyear',
    zeroPadded_append_lt_iff (by decide) hmonth hmonth', zeroPadded_append_lt_iff (by decide) hday hday',
    zeroPadded_append_lt_iff (by decide) hhour hhour', zeroPadded_append_lt_iff (by decide) hminute hminute',
    zeroPadded_append_lt_iff (by decide) hsecond hsecond', zeroPadded_append_lt_iff (by decide) hmillis hmillis']
  have hyears : t.year.toNat < u.year.toNat ↔ t.utc.date.year < u.utc.date.year := by
    unfold year at *
    omega
  have hyears' : t.year.toNat = u.year.toNat ↔ t.utc.date.year = u.utc.date.year := by
    unfold year at *
    omega
  -- Both stamps end in `Z`, so nothing is left to compare.
  simp only [hyears, hyears', Date.Before, Date.eq_iff, or_assoc, and_or_left, and_assoc,
    List.lt_irrefl, and_false, or_false]

/-- A leap second is shown as the second 60 that no other second is shown as. -/
theorem second_lt_iff {a b m n : Nat} (hm : m < 2000000000) (hn : n < 2000000000)
    (ha : 1000000000 ≤ m → a % 60 = 59) (hb : 1000000000 ≤ n → b % 60 = 59) :
    (a % 60 + m / 1000000000 < b % 60 + n / 1000000000 ∨
      a % 60 + m / 1000000000 = b % 60 + n / 1000000000 ∧
        m % 1000000000 / 1000000 < n % 1000000000 / 1000000) ↔
      a % 60 < b % 60 ∨ a % 60 = b % 60 ∧ m / 1000000 < n / 1000000 := by
  omega

/-- A clock that shows second 60 just in a leap second shows the times of a day in their order. -/
theorem clock_lt_iff {a b m n : Nat} (hm : m < 2000000000) (hn : n < 2000000000)
    (ha : 1000000000 ≤ m → a % 60 = 59) (hb : 1000000000 ≤ n → b % 60 = 59) :
    (a / 3600 < b / 3600 ∨ a / 3600 = b / 3600 ∧
      (a / 60 % 60 < b / 60 % 60 ∨ a / 60 % 60 = b / 60 % 60 ∧
        (a % 60 + m / 1000000000 < b % 60 + n / 1000000000 ∨
          a % 60 + m / 1000000000 = b % 60 + n / 1000000000 ∧
            m % 1000000000 / 1000000 < n % 1000000000 / 1000000))) ↔
      a < b ∨ a = b ∧ m / 1000000 < n / 1000000 := by
  have hhour (s : Nat) : s / 3600 = s / 60 / 60 := by omega
  rw [second_lt_iff hm hn ha hb, hhour, hhour, div_mod_lt_iff (by decide), div_mod_lt_iff (by decide)]

/-- Stamps are in the order of their instants, cut to whole milliseconds. -/
theorem stamp_lt_iff (ht : 0 ≤ t.year ∧ t.year ≤ 9999) (hu : 0 ≤ u.year ∧ u.year ≤ 9999)
    (hleap : t.LeapsAtMinuteEnd) (hleap' : u.LeapsAtMinuteEnd) :
    t.stamp < u.stamp ↔
      t.seconds < u.seconds ∨ t.seconds = u.seconds ∧ t.nanos / 1000000 < u.nanos / 1000000 := by
  have hbefore : t.utc.date.Before u.utc.date ↔ t.seconds / 86400 < u.seconds / 86400 := by
    rw [← Date.dayNumber_lt_iff t.valid_utc.date u.valid_utc.date]
    simp only [utc, Date.dayNumber_ofDayNumber]
  have hsame : t.utc.date = u.utc.date ↔ t.seconds / 86400 = u.seconds / 86400 :=
    ⟨Date.ofDayNumber_inj, congrArg Date.ofDayNumber⟩
  rw [stamp_lt_iff_fields ht hu, hbefore, hsame]
  have hclock := clock_lt_iff t.nanos_lt u.nanos_lt hleap hleap'
  simp only [LocalTime.shownSecond, LocalTime.fraction, utc] at hclock ⊢
  rw [hclock]
  omega

/-- Stamps are the same just where the instants agree to the millisecond. -/
theorem stamp_eq_iff (ht : 0 ≤ t.year ∧ t.year ≤ 9999) (hu : 0 ≤ u.year ∧ u.year ≤ 9999)
    (hleap : t.LeapsAtMinuteEnd) (hleap' : u.LeapsAtMinuteEnd) :
    t.stamp = u.stamp ↔ t.seconds = u.seconds ∧ t.nanos / 1000000 = u.nanos / 1000000 := by
  have hlt := stamp_lt_iff ht hu hleap hleap'
  have hgt := stamp_lt_iff hu ht hleap' hleap
  constructor
  · intro h
    rw [h] at hlt hgt
    have hnotlt := mt hlt.2 (String.lt_irrefl _)
    have hnotgt := mt hgt.2 (String.lt_irrefl _)
    omega
  · intro h
    exact String.le_antisymm (String.not_lt.1 (mt hgt.1 (by omega))) (String.not_lt.1 (mt hlt.1 (by omega)))

end Instant

/-! ## Stamps read back -/

/-- The fields of a stamp for the years 0 to 9999. -/
def LocalTime.fieldsText (t : LocalTime) : String :=
  zeroPadded 4 t.date.year.toNat ++ "-" ++ zeroPadded 2 t.date.month ++ "-" ++ zeroPadded 2 t.date.day ++ "T" ++
    zeroPadded 2 t.hour ++ ":" ++ zeroPadded 2 t.minute ++ ":" ++ zeroPadded 2 t.shownSecond ++ "." ++
    zeroPadded 3 (t.fraction / 1000000) ++ "Z"

/-- The number in the first `width` places, and what stands behind them and a separator. -/
def readField (width : Nat) (s : List Char) : Nat × List Char :=
  (Nat.ofDigitChars 10 (s.take width) 0, s.drop (width + 1))

theorem readField_zeroPadded {width n : Nat} (hw : 0 < width) (hn : n < tenTo width) (c : Char) (s : List Char) :
    readField width ((zeroPadded width n).toList ++ c :: s) = (n, s) := by
  have hlength := length_zeroPadded hw hn
  rw [readField, List.take_append_of_le_length (Nat.le_of_eq hlength.symm), List.take_of_length_le
    (Nat.le_of_eq hlength), ofDigitChars_zeroPadded, List.drop_append, hlength, List.drop_eq_nil_of_le (by omega),
    Nat.add_sub_cancel_left]
  rfl

/-- Nanoseconds of a shown second, and a second more where it is a leap second. -/
def nanosOf (second millis : Nat) : Nat := millis % 1000 * 1000000 + if second = 60 then 1000000000 else 0

theorem nanosOf_lt (second millis : Nat) : nanosOf second millis < 2000000000 := by
  unfold nanosOf
  split <;> omega

/-- The reading that a stamp shows. Second 60 is the leap second behind second 59. -/
def LocalTime.ofStamp (s : String) : LocalTime :=
  let (year, s) := readField 4 s.toList
  let (month, s) := readField 2 s
  let (day, s) := readField 2 s
  let (hour, s) := readField 2 s
  let (minute, s) := readField 2 s
  let (second, s) := readField 2 s
  let (millis, _) := readField 3 s
  { date := ⟨year, month, day⟩
    hour
    minute
    second := min 59 second
    nanos := nanosOf second millis
    nanos_lt := nanosOf_lt second millis }

namespace Instant

variable {t : Instant}

/-- Reading the fields of a stamp gives its instant back, cut to whole milliseconds. -/
theorem ofStamp_stamp (ht : 0 ≤ t.year ∧ t.year ≤ 9999) (hleap : t.LeapsAtMinuteEnd) :
    (LocalTime.ofStamp t.stamp).toInstant 0 = t.truncated := by
  obtain ⟨hyear, hmonth, hday, hhour, hminute, hsecond, hmillis⟩ := fields_lt ht
  simp only [LocalTime.ofStamp, toList_stamp ht, readField_zeroPadded (by decide) hyear,
    readField_zeroPadded (by decide) hmonth, readField_zeroPadded (by decide) hday,
    readField_zeroPadded (by decide) hhour, readField_zeroPadded (by decide) hminute,
    readField_zeroPadded (by decide) hsecond, readField_zeroPadded (by decide) hmillis]
  have hdate : (⟨t.year.toNat, t.utc.date.month, t.utc.date.day⟩ : Date) = t.utc.date := by
    rw [Date.eq_iff]
    exact ⟨Int.toNat_of_nonneg ht.1, rfl, rfl⟩
  have hlt := t.valid_utc.second_lt
  have hnanos := t.nanos_lt
  have hwhole := congrArg Instant.seconds t.toInstant_utc
  -- The shown second tells whether it is a leap second.
  have hshown : t.utc.shownSecond = t.utc.second + t.nanos / 1000000000 := rfl
  have hfraction : t.utc.fraction = t.nanos % 1000000000 := rfl
  unfold LeapsAtMinuteEnd at hleap
  simp only [LocalTime.toInstant, truncated, mk.injEq, hdate, hshown, hfraction] at hwhole ⊢
  generalize t.utc.second = second at *
  constructor
  · rw [show min 59 (second + t.nanos / 1000000000) = second by omega]
    exact hwhole
  · unfold nanosOf
    split <;> omega

/-- What a stamp shows of a reading. -/
theorem stamp_eq_fields (ht : 0 ≤ t.year ∧ t.year ≤ 9999) : t.stamp = t.utc.fieldsText := by
  rw [← String.toList_inj, toList_stamp ht]
  simp [LocalTime.fieldsText, year]

theorem map_isDigit_zeroPadded {width n : Nat} (hw : 0 < width) (hn : n < tenTo width) :
    (zeroPadded width n).toList.map (fun c => if c.isDigit then '0' else c) = List.replicate width '0' := by
  rw [List.eq_replicate_iff, List.length_map, length_zeroPadded hw hn]
  refine ⟨rfl, ?_⟩
  intro c hc
  obtain ⟨d, hd, rfl⟩ := List.mem_map.1 hc
  exact if_pos (isDigit_of_mem_zeroPadded hd)

/-- All stamps have the same shape. -/
theorem map_isDigit_stamp (ht : 0 ≤ t.year ∧ t.year ≤ 9999) :
    t.stamp.toList.map (fun c => if c.isDigit then '0' else c) = "0000-00-00T00:00:00.000Z".toList := by
  obtain ⟨hyear, hmonth, hday, hhour, hminute, hsecond, hmillis⟩ := fields_lt ht
  simp only [toList_stamp ht, List.map_append, List.map_cons, map_isDigit_zeroPadded (by decide) hyear,
    map_isDigit_zeroPadded (by decide) hmonth, map_isDigit_zeroPadded (by decide) hday,
    map_isDigit_zeroPadded (by decide) hhour, map_isDigit_zeroPadded (by decide) hminute,
    map_isDigit_zeroPadded (by decide) hsecond, map_isDigit_zeroPadded (by decide) hmillis]
  rfl

end Instant

/-! ## Literals of moments -/

/-- What a timestamp is made from: a date, a date and a time, or these at an offset from UTC. -/
inductive Moment
  | date (d : Date)
  | naive (t : LocalTime)
  | zoned (t : LocalTime) (offset : Int)

namespace Moment

def shown : Moment → LocalTime
  | date d => d.midnight
  | naive t => t
  | zoned t _ => t

def offset : Moment → Int
  | zoned _ o => o
  | _ => 0

def value : Moment → Value
  | date d => .ofDate d
  | naive t => .ofNaive t
  | zoned t o => .ofDateTime t o

/-- What a calendar and a clock in UTC show at the moment. -/
structure InUtc (m : Moment) (u : LocalTime) : Prop where
  valid : u.Valid
  seconds : u.date.dayNumber * 86400 + u.secondOfDay =
    m.shown.date.dayNumber * 86400 + m.shown.secondOfDay - m.offset
  nanos : u.nanos = m.shown.nanos

theorem value_eq (m : Moment) : m.value = .timestamp (m.shown.toInstant m.offset) := by
  cases m <;> rfl

theorem InUtc.toInstant_eq {m : Moment} {u : LocalTime} (h : m.InUtc u) :
    u.toInstant 0 = m.shown.toInstant m.offset := by
  have hseconds := h.seconds
  simp only [LocalTime.toInstant, Instant.mk.injEq, h.nanos, and_true]
  unfold LocalTime.secondOfDay at hseconds
  omega

theorem inUtc_iff {m : Moment} {u : LocalTime} : m.InUtc u ↔ u = (m.shown.toInstant m.offset).utc := by
  constructor
  · intro h
    rw [← h.toInstant_eq, LocalTime.utc_toInstant h.valid]
  · rintro rfl
    have hseconds := congrArg Instant.seconds (m.shown.toInstant m.offset).toInstant_utc
    refine ⟨Instant.valid_utc _, ?_, rfl⟩
    unfold LocalTime.secondOfDay
    simp only [LocalTime.toInstant] at hseconds ⊢
    omega

end Moment

namespace Value

theorem literal_timestamp {t : Instant} (h : (timestamp t).literalError? = none) :
    (timestamp t).literal = .ok ("cast(" ++ t.stamp ++ ",Edm.DateTimeOffset)") := by
  unfold literal
  rw [h]
  rfl

/-- A moment has one reading in UTC, which has a literal if its year has four digits. The literal shows the
reading in 24 characters and is the same for every moment with that reading. The stamps of instants, leap
seconds behind the last second of a minute, are in the order of the instants to the millisecond, and read as
dates of the Gregorian calendar they give the instants back, cut to the millisecond. -/
theorem timestamp_literals :
    (∀ m : Moment, ∃ u, m.InUtc u ∧ (∀ w, m.InUtc w → w = u) ∧
      (m.value.literalError? = none ↔ 0 ≤ u.date.year ∧ u.date.year ≤ 9999) ∧
      (0 ≤ u.date.year ∧ u.date.year ≤ 9999 →
        m.value.literal = .ok ("cast(" ++ u.fieldsText ++ ",Edm.DateTimeOffset)") ∧
        u.fieldsText.length = 24 ∧
        u.fieldsText.toList.map (fun c => if c.isDigit then '0' else c) = "0000-00-00T00:00:00.000Z".toList)) ∧
    (∀ (m n : Moment) (u : LocalTime), m.InUtc u → n.InUtc u → m.value.literal = n.value.literal) ∧
    (∀ a b : Instant, (timestamp a).literalError? = none → (timestamp b).literalError? = none →
      a.LeapsAtMinuteEnd → b.LeapsAtMinuteEnd →
      (timestamp a).literal = .ok ("cast(" ++ a.stamp ++ ",Edm.DateTimeOffset)") ∧
      (a.stamp < b.stamp ↔ a.seconds < b.seconds ∨ a.seconds = b.seconds ∧ a.nanos / 1000000 < b.nanos / 1000000) ∧
      (a.stamp = b.stamp ↔ a.seconds = b.seconds ∧ a.nanos / 1000000 = b.nanos / 1000000) ∧
      (LocalTime.ofStamp a.stamp).toInstant 0 = a.truncated) ∧
    Date.dayNumber ⟨1970, 1, 1⟩ = 0 ∧
      ∀ d : Date, d.Valid → d.next.Valid ∧ d.next.dayNumber = d.dayNumber + 1 := by
  refine ⟨?_, ?_, ?_, Date.dayNumber_epoch, fun d hd => ⟨Date.valid_next hd, Date.dayNumber_next hd⟩⟩
  · intro m
    refine ⟨_, Moment.inUtc_iff.2 rfl, fun w hw => Moment.inUtc_iff.1 hw, ?_, ?_⟩
    · rw [m.value_eq]
      exact literalError?_timestamp
    · intro hyear
      have hshape := Instant.map_isDigit_stamp hyear
      have hlength := congrArg List.length hshape
      rw [List.length_map, String.length_toList] at hlength
      rw [m.value_eq, literal_timestamp (literalError?_timestamp.2 hyear), ← Instant.stamp_eq_fields hyear]
      exact ⟨rfl, hlength, hshape⟩
  · intro m n u hm hn
    rw [m.value_eq, n.value_eq, ← hm.toInstant_eq, ← hn.toInstant_eq]
  · intro a b ha hb hleap hleap'
    have hyear := literalError?_timestamp.1 ha
    have hyear' := literalError?_timestamp.1 hb
    exact ⟨literal_timestamp ha, Instant.stamp_lt_iff hyear hyear' hleap hleap',
      Instant.stamp_eq_iff hyear hyear' hleap hleap', Instant.ofStamp_stamp hyear hleap⟩

/-- Half an hour past midnight at one hour ahead of UTC is in the old year there, and the leap second at the end
of that year comes before the new one. -/
theorem timestamp_literals_new_year :
    ((Moment.zoned ⟨⟨2017, 1, 1⟩, 0, 30, 0, 0, by decide⟩ 3600).InUtc ⟨⟨2016, 12, 31⟩, 23, 30, 0, 0, by decide⟩ ∧
      (Moment.naive ⟨⟨2016, 12, 31⟩, 23, 30, 0, 0, by decide⟩).InUtc ⟨⟨2016, 12, 31⟩, 23, 30, 0, 0, by decide⟩ ∧
      (timestamp ⟨1483228799, 1500000000, by decide⟩).literalError? = none ∧
      (timestamp ⟨1483228800, 0, by decide⟩).literalError? = none ∧
      (⟨1483228799, 1500000000, by decide⟩ : Instant).LeapsAtMinuteEnd ∧
      (⟨1483228800, 0, by decide⟩ : Instant).LeapsAtMinuteEnd ∧ (⟨2016, 2, 28⟩ : Date).Valid) ∧
    (Moment.zoned ⟨⟨2017, 1, 1⟩, 0, 30, 0, 0, by decide⟩ 3600).value.literal =
      .ok ("cast(" ++ "2016-12-31T23:30:00.000Z" ++ ",Edm.DateTimeOffset)") ∧
    (Moment.zoned ⟨⟨2017, 1, 1⟩, 0, 30, 0, 0, by decide⟩ 3600).value.literal =
      (Moment.naive ⟨⟨2016, 12, 31⟩, 23, 30, 0, 0, by decide⟩).value.literal ∧
    (⟨1483228799, 1500000000, by decide⟩ : Instant).stamp < (⟨1483228800, 0, by decide⟩ : Instant).stamp ∧
    (LocalTime.ofStamp (⟨1483228799, 1500000000, by decide⟩ : Instant).stamp).toInstant 0 =
      (⟨1483228799, 1500000000, by decide⟩ : Instant).truncated ∧
    (⟨2016, 2, 28⟩ : Date).next.dayNumber = Date.dayNumber ⟨2016, 2, 28⟩ + 1 := by
  obtain ⟨hread, hsame, horder, -, hnext⟩ := timestamp_literals
  have hreading : (⟨⟨2016, 12, 31⟩, 23, 30, 0, 0, by decide⟩ : LocalTime).Valid :=
    ⟨⟨by decide, by decide, by decide, by decide⟩, by decide, by decide, by decide⟩
  have hzoned : (Moment.zoned ⟨⟨2017, 1, 1⟩, 0, 30, 0, 0, by decide⟩ 3600).InUtc
      ⟨⟨2016, 12, 31⟩, 23, 30, 0, 0, by decide⟩ := ⟨hreading, by decide, rfl⟩
  have hnaive : (Moment.naive ⟨⟨2016, 12, 31⟩, 23, 30, 0, 0, by decide⟩).InUtc
      ⟨⟨2016, 12, 31⟩, 23, 30, 0, 0, by decide⟩ := ⟨hreading, rfl, rfl⟩
  have hleapSecond : (timestamp ⟨1483228799, 1500000000, by decide⟩).literalError? = none := by decide
  have hnewYear : (timestamp ⟨1483228800, 0, by decide⟩).literalError? = none := by decide
  have hleap : (⟨1483228799, 1500000000, by decide⟩ : Instant).LeapsAtMinuteEnd := fun _ => by decide
  have hnone : (⟨1483228800, 0, by decide⟩ : Instant).LeapsAtMinuteEnd := fun h => absurd h (by decide)
  have hdate : (⟨2016, 2, 28⟩ : Date).Valid := ⟨by decide, by decide, by decide, by decide⟩
  obtain ⟨-, hlt, -, hback⟩ := horder _ _ hleapSecond hnewYear hleap hnone
  refine ⟨⟨hzoned, hnaive, hleapSecond, hnewYear, hleap, hnone, hdate⟩, ?_, hsame _ _ _ hzoned hnaive,
    hlt.2 (.inl (by decide)), hback, (hnext _ hdate).2⟩
  obtain ⟨u, -, hunique, -, hliteral⟩ := hread (.zoned ⟨⟨2017, 1, 1⟩, 0, 30, 0, 0, by decide⟩ 3600)
  obtain rfl := hunique _ hzoned
  exact (hliteral (by decide)).1

end Value

end TableQuery
