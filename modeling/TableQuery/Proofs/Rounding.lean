import Mathlib.Algebra.Order.Ring.Abs
import Mathlib.Data.Rat.Cast.Order
import Mathlib.Tactic.Linarith
import Mathlib.Tactic.Ring
import TableQuery.Proofs.Decimals
/-!
# Rounding to nearest

A number rounds to the pattern in whose interval it lies, half way to the patterns on both sides
(`nearest_eq_iff`). So no float is nearer to it than the one it rounds to, and where another is as near the
significand is even (`isNearest_ofRatio`).
-/

namespace TableQuery

namespace FloatFormat

variable {f : FloatFormat}

/-! ## Significands -/

/-- The digits of a pattern, the leading one included, as a whole number. -/
def significand (f : FloatFormat) (p : Nat) : Nat :=
  if p / twoTo f.fractionBits = 0 then p % twoTo f.fractionBits
  else twoTo f.fractionBits + p % twoTo f.fractionBits

theorem twoTo_even {n : Nat} (h : 0 < n) : twoTo n % 2 = 0 := by
  obtain ⟨m, rfl⟩ := Nat.exists_eq_add_of_lt h
  rw [Nat.zero_add, twoTo_succ, Nat.mul_mod_right]

theorem significand_mod_two (hf : 0 < f.fractionBits) (p : Nat) : f.significand p % 2 = p % 2 := by
  have heven := twoTo_even hf
  have hmod : p % twoTo f.fractionBits % 2 = p % 2 := Nat.mod_mod_of_dvd p (Nat.dvd_of_mod_eq_zero heven)
  unfold significand
  split
  · exact hmod
  · rw [Nat.add_mod, heven, hmod, Nat.zero_add, Nat.mod_mod]

/-! ## Whole steps -/

/-- Significands of up to one bit more than the fraction has, counted in steps of `2 ^ s` units. The
greatest of them is a power of two, and belongs to the next exponent. -/
theorem units_step {s k : Nat} (hk : k ≤ 2 * twoTo f.fractionBits) (hs : s = 0 ∨ twoTo f.fractionBits ≤ k) :
    f.units (s * twoTo f.fractionBits + k) = k * twoTo s := by
  have hpos := twoTo_pos f.fractionBits
  rcases (by omega : k < twoTo f.fractionBits ∨
      (twoTo f.fractionBits ≤ k ∧ k < 2 * twoTo f.fractionBits) ∨ k = 2 * twoTo f.fractionBits) with
    hlow | ⟨hmin, hmax⟩ | htop
  · obtain rfl : s = 0 := by omega
    rw [units_eq f 0 k hlow, if_pos rfl]
    exact (Nat.mul_one k).symm
  · have hsplit : s * twoTo f.fractionBits + k =
        (s + 1) * twoTo f.fractionBits + (k - twoTo f.fractionBits) := by
      rw [Nat.add_one_mul]
      omega
    rw [hsplit, units_eq f _ _ (by omega), if_neg (Nat.succ_ne_zero s), Nat.add_sub_cancel,
      Nat.add_sub_cancel' hmin]
  · have hsplit : s * twoTo f.fractionBits + k = (s + 2) * twoTo f.fractionBits + 0 := by
      rw [htop, Nat.add_mul, Nat.add_zero]
    rw [hsplit, units_eq f _ _ hpos, if_neg (by omega), Nat.add_zero, htop, show s + 2 - 1 = s + 1 from rfl,
      twoTo_succ, Nat.mul_left_comm, Nat.mul_assoc]

/-- The step after a significand is at least one step long. -/
theorem units_step_succ {s k : Nat} (hk : k ≤ 2 * twoTo f.fractionBits)
    (hs : s = 0 ∨ twoTo f.fractionBits ≤ k) :
    (k + 1) * twoTo s ≤ f.units (s * twoTo f.fractionBits + k + 1) := by
  rcases Nat.eq_or_lt_of_le hk with htop | hlt
  · -- Behind a power of two the steps are twice as long.
    have hpos := twoTo_pos f.fractionBits
    have hsplit : s * twoTo f.fractionBits + k + 1 =
        (s + 1) * twoTo f.fractionBits + (twoTo f.fractionBits + 1) := by
      rw [Nat.add_one_mul]
      omega
    rw [hsplit, units_step (by omega) (.inr (by omega)), twoTo_succ, ← Nat.mul_assoc]
    exact Nat.mul_le_mul_right _ (by omega)
  · rw [Nat.add_assoc, units_step (by omega) (hs.imp id (by omega))]

/-! ## Rounding to whole steps -/

/-- What is rounded lies within half a step of the result, and at the very half only for an even one. -/
theorem roundHalfEven_spec {n d : Nat} (hd : 0 < d) :
    2 * (roundHalfEven n d * d) ≤ 2 * n + d ∧ 2 * n ≤ 2 * (roundHalfEven n d * d) + d ∧
      (roundHalfEven n d % 2 = 1 →
        2 * (roundHalfEven n d * d) < 2 * n + d ∧ 2 * n < 2 * (roundHalfEven n d * d) + d) := by
  have hn : n / d * d + n % d = n := Nat.div_add_mod' n d
  have hsucc : (n / d + 1) * d = n / d * d + d := Nat.add_one_mul _ _
  have hr : n % d < d := Nat.mod_lt n hd
  unfold roundHalfEven
  dsimp only
  split <;> omega

/-- The pattern that `nearest` gives where the exponents have no end. -/
def unbounded (f : FloatFormat) (num den : Nat) : Nat :=
  let n := num * twoTo f.scale
  let shift := (n / den).log2 - f.fractionBits
  shift * twoTo f.fractionBits + roundHalfEven n (den * twoTo shift)

theorem nearest_eq_min (f : FloatFormat) (num den : Nat) :
    f.nearest num den = min f.infinity (f.unbounded num den) := rfl

/-- The significand found for a number fills its bits, unless the exponent is the least one. -/
theorem shift_spec (f : FloatFormat) (m : Nat) :
    m / twoTo (m.log2 - f.fractionBits) < 2 * twoTo f.fractionBits ∧
      (m.log2 - f.fractionBits = 0 ∨ twoTo f.fractionBits ≤ m / twoTo (m.log2 - f.fractionBits)) := by
  constructor
  · rw [← twoTo_succ]
    exact f.div_shift_lt m
  · by_cases hs : m.log2 - f.fractionBits = 0
    · exact .inl hs
    · right
      have hm : m ≠ 0 := by
        rintro rfl
        simp at hs
      rw [Nat.le_div_iff_mul_le (twoTo_pos _), ← twoTo_add, Nat.add_sub_cancel' (by omega)]
      exact Nat.log2_self_le hm

theorem le_roundHalfEven (n d : Nat) : n / d ≤ roundHalfEven n d := by
  unfold roundHalfEven
  dsimp only
  split <;> omega

/-- Significands that are not the least of their exponent have a whole step before them. -/
theorem units_step_pred {s k : Nat} (hk : k ≤ 2 * twoTo f.fractionBits)
    (hs : s = 0 ∨ twoTo f.fractionBits < k) :
    f.units (s * twoTo f.fractionBits + k - 1) = (k - 1) * twoTo s := by
  cases k with
  | zero =>
    obtain rfl : s = 0 := by omega
    simpa using units_step (f := f) (s := 0) (Nat.zero_le _) (.inl rfl)
  | succ k => exact units_step (by omega) (hs.imp id (by omega))

/-- Half way down from the pattern that is found, there is nothing above the number. -/
theorem low_end {s k q n den : Nat} (hk : k ≤ 2 * twoTo f.fractionBits)
    (hs : s = 0 ∨ (twoTo f.fractionBits ≤ q ∧ q ≤ k)) (hq : q * (den * twoTo s) ≤ n) (hden : 0 < den)
    (hlow : 2 * (k * (den * twoTo s)) ≤ 2 * n + den * twoTo s) :
    (f.units (s * twoTo f.fractionBits + k - 1) + f.units (s * twoTo f.fractionBits + k)) * den ≤ 2 * n ∧
      (2 * (k * (den * twoTo s)) < 2 * n + den * twoTo s → 0 < k →
        (f.units (s * twoTo f.fractionBits + k - 1) + f.units (s * twoTo f.fractionBits + k)) * den < 2 * n) := by
  have hstep (a : Nat) : a * twoTo s * den = a * (den * twoTo s) := by
    rw [Nat.mul_assoc, Nat.mul_comm (twoTo s)]
  have hunits := units_step (f := f) hk (hs.imp id (by omega))
  by_cases hmin : s = 0 ∨ twoTo f.fractionBits < k
  · rw [units_step_pred hk hmin, hunits, Nat.add_mul, hstep, hstep]
    cases k with
    | zero => simp
    | succ k =>
      have hsucc := Nat.add_one_mul k (den * twoTo s)
      rw [Nat.add_sub_cancel]
      omega
  · -- The least significand of an exponent is not above the number itself.
    have hkq : k = q := by omega
    have hpos := twoTo_pos f.fractionBits
    have hlt := units_lt_units f (Nat.sub_one_lt (by omega : s * twoTo f.fractionBits + k ≠ 0))
    have hmul := Nat.mul_lt_mul_of_pos_right hlt hden
    rw [Nat.add_mul]
    rw [hunits, hstep, hkq] at *
    omega

/-- Half way up from the pattern that is found, there is nothing below the number. -/
theorem high_end {s k : Nat} (hk : k ≤ 2 * twoTo f.fractionBits) (hs : s = 0 ∨ twoTo f.fractionBits ≤ k)
    (den : Nat) :
    2 * (k * (den * twoTo s)) + den * twoTo s ≤
      (f.units (s * twoTo f.fractionBits + k) + f.units (s * twoTo f.fractionBits + k + 1)) * den := by
  have hnext := Nat.mul_le_mul_right den (units_step_succ hk hs)
  have hstep (a : Nat) : a * twoTo s * den = a * (den * twoTo s) := by
    rw [Nat.mul_assoc, Nat.mul_comm (twoTo s)]
  rw [hstep, Nat.add_one_mul] at hnext
  rw [units_step hk hs, Nat.add_mul, hstep]
  omega

/-- A number lies in the interval of the pattern that it rounds to. -/
theorem contains_unbounded (hf : 0 < f.fractionBits) {num den : Nat} (hden : 0 < den) :
    (f.interval (f.unbounded num den)).contains num den = true := by
  obtain ⟨hfull, hnormal⟩ := shift_spec f (num * twoTo f.scale / den)
  rw [RoundingInterval.contains_iff]
  unfold unbounded
  simp only [interval, decide_eq_true_eq]
  generalize (num * twoTo f.scale / den).log2 - f.fractionBits = s at hfull hnormal
  rw [Nat.div_div_eq_div_mul] at hfull hnormal
  have hd : 0 < den * twoTo s := Nat.mul_pos hden (twoTo_pos s)
  have hvalue : num * twoTo (f.scale + 1) = 2 * (num * twoTo f.scale) := by
    rw [twoTo_succ, Nat.mul_left_comm]
  rw [hvalue]
  generalize num * twoTo f.scale = n at hfull hnormal
  obtain ⟨hlow, hhigh, hodd⟩ := roundHalfEven_spec (n := n) hd
  have hle := roundHalfEven_le n (den * twoTo s)
  have hge := le_roundHalfEven n (den * twoTo s)
  have hfloor : n / (den * twoTo s) * (den * twoTo s) ≤ n := Nat.div_mul_le_self _ _
  generalize roundHalfEven n (den * twoTo s) = k at *
  generalize n / (den * twoTo s) = q at *
  have hparity : (s * twoTo f.fractionBits + k) % 2 = k % 2 := by
    rw [Nat.add_mod, Nat.mul_mod, twoTo_even hf, Nat.mul_zero, Nat.zero_mod, Nat.zero_add, Nat.mod_mod]
  have hk : k ≤ 2 * twoTo f.fractionBits := by omega
  have hs : s = 0 ∨ (twoTo f.fractionBits ≤ q ∧ q ≤ k) := hnormal.imp id fun h => ⟨h, hge⟩
  obtain ⟨hlowEnd, hlowStrict⟩ := low_end hk hs hfloor hden hlow
  have hhighEnd := high_end hk (hs.imp id (by omega)) den
  rw [hparity]
  split
  · exact ⟨hlowEnd, Nat.le_trans hhigh hhighEnd⟩
  · obtain ⟨hlow, hhigh⟩ := hodd (by omega)
    exact ⟨hlowStrict hlow (by omega), Nat.lt_of_lt_of_le hhigh hhighEnd⟩

/-- A number rounds to a finite pattern just when it lies in the interval of that one. -/
theorem nearest_eq_iff (hf : 0 < f.fractionBits) {num den p : Nat} (hden : 0 < den) (hp : p < f.infinity) :
    f.nearest num den = p ↔ (f.interval p).contains num den = true := by
  rw [nearest_eq_min]
  constructor
  · intro h
    have hp : f.unbounded num den = p := by omega
    rw [← hp]
    exact contains_unbounded hf hden
  · intro h
    have hunbounded : (f.interval (f.unbounded num den)).contains num den = true := contains_unbounded hf hden
    rcases Nat.lt_trichotomy (f.unbounded num den) p with hlt | heq | hlt
    · exact absurd h (not_contains_of_lt hden hlt hunbounded)
    · omega
    · exact absurd hunbounded (not_contains_of_lt hden hlt h)

/-! ## Rational numbers -/

/-- The number that a pattern stands for. -/
def magnitude (f : FloatFormat) (p : Nat) : ℚ := f.units p / (twoTo f.scale : ℚ)

theorem twoTo_cast_pos (n : Nat) : (0 : ℚ) < twoTo n := Nat.cast_pos.2 (twoTo_pos n)

theorem magnitude_nonneg (f : FloatFormat) (p : Nat) : 0 ≤ f.magnitude p :=
  div_nonneg (Nat.cast_nonneg _) (twoTo_cast_pos _).le

theorem magnitude_lt {p q : Nat} (h : p < q) : f.magnitude p < f.magnitude q :=
  div_lt_div_of_pos_right (Nat.cast_lt.2 (units_lt_units f h)) (twoTo_cast_pos _)

theorem magnitude_le {p q : Nat} (h : p ≤ q) : f.magnitude p ≤ f.magnitude q :=
  div_le_div_of_nonneg_right (Nat.cast_le.2 (units_le_units f h)) (twoTo_cast_pos _).le

theorem magnitude_zero (f : FloatFormat) : f.magnitude 0 = 0 := by
  simp [magnitude, units]

/-- Half way to the neighbours on both sides, the ends included for an even pattern. -/
def Rounds (f : FloatFormat) (p : Nat) (r : ℚ) : Prop :=
  if p % 2 = 0 then
    f.magnitude (p - 1) + f.magnitude p ≤ 2 * r ∧ 2 * r ≤ f.magnitude p + f.magnitude (p + 1)
  else f.magnitude (p - 1) + f.magnitude p < 2 * r ∧ 2 * r < f.magnitude p + f.magnitude (p + 1)

theorem contains_iff_rounds {num den p : Nat} (hden : 0 < den) :
    (f.interval p).contains num den = true ↔ f.Rounds p (num / den) := by
  have hd : (0 : ℚ) < den := Nat.cast_pos.2 hden
  have hlow (a : Nat) : a * den ≤ num * twoTo (f.scale + 1) ↔ a / (twoTo f.scale : ℚ) ≤ 2 * (num / den) := by
    rw [mul_div_assoc', div_le_div_iff₀ (twoTo_cast_pos _) hd, twoTo_succ, Nat.mul_left_comm, ← Nat.mul_assoc]
    norm_cast
  have hhigh (a : Nat) : num * twoTo (f.scale + 1) ≤ a * den ↔ 2 * ((num : ℚ) / den) ≤ a / twoTo f.scale := by
    rw [mul_div_assoc', div_le_div_iff₀ hd (twoTo_cast_pos _), twoTo_succ, Nat.mul_left_comm, ← Nat.mul_assoc]
    norm_cast
  rw [RoundingInterval.contains_iff]
  simp only [interval, Rounds, magnitude, decide_eq_true_eq, ← add_div, ← Nat.cast_add]
  split
  · rw [hlow, hhigh]
  · rw [← not_le, ← not_le, ← not_le, ← not_le, hlow, hhigh]

/-- The nearer of two numbers is the one on the same side of their middle. -/
theorem abs_sub_le_iff_of_lt {a b : ℚ} (h : a < b) (r : ℚ) :
    (|a - r| ≤ |b - r| ↔ 2 * r ≤ a + b) ∧ (|b - r| ≤ |a - r| ↔ a + b ≤ 2 * r) := by
  have hsquares : (b - r) ^ 2 - (a - r) ^ 2 = (b - a) * (a + b - 2 * r) := by ring
  have hsquares' : (a - r) ^ 2 - (b - r) ^ 2 = (b - a) * (2 * r - (a + b)) := by ring
  constructor
  · rw [← sq_le_sq, ← sub_nonneg, hsquares, mul_nonneg_iff_of_pos_left (sub_pos.2 h), sub_nonneg]
  · rw [← sq_le_sq, ← sub_nonneg, hsquares', mul_nonneg_iff_of_pos_left (sub_pos.2 h), sub_nonneg]

theorem Rounds.low {p : Nat} {r : ℚ} (h : f.Rounds p r) : f.magnitude (p - 1) + f.magnitude p ≤ 2 * r := by
  unfold Rounds at h
  split at h
  · exact h.1
  · exact h.1.le

theorem Rounds.high {p : Nat} {r : ℚ} (h : f.Rounds p r) : 2 * r ≤ f.magnitude p + f.magnitude (p + 1) := by
  unfold Rounds at h
  split at h
  · exact h.2
  · exact h.2.le

/-- Only even patterns have the ends of their intervals. -/
theorem Rounds.even {p : Nat} {r : ℚ} (h : f.Rounds p r)
    (hend : 2 * r ≤ f.magnitude (p - 1) + f.magnitude p ∨ f.magnitude p + f.magnitude (p + 1) ≤ 2 * r) :
    p % 2 = 0 := by
  unfold Rounds at h
  split at h
  · assumption
  · rcases hend with hend | hend
    · exact absurd h.1 hend.not_gt
    · exact absurd h.2 hend.not_gt

/-- No other pattern is nearer, and none is as near to an odd one. -/
theorem Rounds.nearest {p : Nat} {r : ℚ} (h : f.Rounds p r) (q : Nat) :
    |f.magnitude p - r| ≤ |f.magnitude q - r| ∧
      (q ≠ p → |f.magnitude q - r| ≤ |f.magnitude p - r| → p % 2 = 0) := by
  rcases Nat.lt_trichotomy q p with hlt | rfl | hlt
  · have hpred : f.magnitude q ≤ f.magnitude (p - 1) := magnitude_le (by omega)
    have hlow := h.low
    constructor
    · exact (abs_sub_le_iff_of_lt (magnitude_lt hlt) r).2.2 (by linarith)
    · intro _ htie
      have hend := (abs_sub_le_iff_of_lt (magnitude_lt hlt) r).1.1 htie
      exact h.even (.inl (by linarith))
  · exact ⟨le_refl _, fun hne => absurd rfl hne⟩
  · have hsucc : f.magnitude (p + 1) ≤ f.magnitude q := magnitude_le hlt
    have hhigh := h.high
    constructor
    · exact (abs_sub_le_iff_of_lt (magnitude_lt hlt) r).1.2 (by linarith)
    · intro _ htie
      have hend := (abs_sub_le_iff_of_lt (magnitude_lt hlt) r).2.1 htie
      exact h.even (.inr (by linarith))

end FloatFormat

/-! ## Floats as numbers -/

/-- The number with that magnitude, below zero if `negative`. -/
def signed (negative : Bool) (r : ℚ) : ℚ := if negative then -r else r

theorem signed_zero (s : Bool) : signed s 0 = 0 := by cases s <;> simp [signed]

theorem abs_signed_sub (s : Bool) (a b : ℚ) : |signed s a - signed s b| = |a - b| := by
  cases s with
  | false => rfl
  | true =>
    have hneg : -a - -b = -(a - b) := by ring
    simp only [signed, if_true, hneg, abs_neg]

/-- Numbers on both sides of zero are as far apart as their magnitudes together. -/
theorem abs_signed_sub_of_ne {s t : Bool} (h : s ≠ t) {a b : ℚ} (ha : 0 ≤ a) (hb : 0 ≤ b) :
    |signed s a - signed t b| = a + b := by
  cases s <;> cases t
  · exact absurd rfl h
  · rw [show signed false a - signed true b = a + b from sub_neg_eq_add a b, abs_of_nonneg (add_nonneg ha hb)]
  · rw [show signed true a - signed false b = -(a + b) by simp only [signed]; ring_nf; rfl, abs_neg,
      abs_of_nonneg (add_nonneg ha hb)]
  · exact absurd rfl h

namespace BinaryFloat

variable {f : FloatFormat}

/-- The number that a finite float stands for. -/
def value (x : BinaryFloat f) : ℚ := signed x.negative (f.magnitude x.pattern)

/-- Of all finite floats none is nearer to the number, and where another one is as near the significand is
even. -/
structure IsNearest (x : BinaryFloat f) (r : ℚ) : Prop where
  finite : x.isFinite = true
  nearest (y : BinaryFloat f) : y.isFinite = true → |x.value - r| ≤ |y.value - r|
  even (y : BinaryFloat f) : y.isFinite = true → y.value ≠ x.value → |y.value - r| = |x.value - r| →
    f.significand x.pattern % 2 = 0

theorem isNearest_of_rounds (hf : 0 < f.fractionBits) {x : BinaryFloat f} {r : ℚ} (hr : 0 ≤ r)
    (hx : x.isFinite = true) (h : f.Rounds x.pattern r) : x.IsNearest (signed x.negative r) := by
  have hzero := h.nearest 0
  rw [FloatFormat.magnitude_zero, zero_sub, abs_neg, abs_of_nonneg hr] at hzero
  refine ⟨hx, ?_, ?_⟩
  · intro y _
    unfold value
    rw [abs_signed_sub]
    by_cases hs : y.negative = x.negative
    · rw [hs, abs_signed_sub]
      exact (h.nearest _).1
    · -- On the other side of zero, zero itself is nearer.
      have hy := f.magnitude_nonneg y.pattern
      rw [abs_signed_sub_of_ne hs hy hr]
      linarith [hzero.1]
  · intro y _ hne htie
    rw [FloatFormat.significand_mod_two hf]
    unfold value at hne htie
    rw [abs_signed_sub x.negative] at htie
    by_cases hs : y.negative = x.negative
    · rw [hs, abs_signed_sub] at htie
      refine (h.nearest y.pattern).2 ?_ htie.le
      intro heq
      rw [hs, heq] at hne
      exact hne rfl
    · have hy := f.magnitude_nonneg y.pattern
      rw [abs_signed_sub_of_ne hs hy hr] at htie
      refine hzero.2 ?_ (by linarith)
      intro heq
      rw [← heq, FloatFormat.magnitude_zero, zero_sub, abs_neg, abs_of_nonneg hr] at htie
      have hsame : f.magnitude y.pattern = 0 := by linarith
      rw [hsame, ← heq, FloatFormat.magnitude_zero, signed_zero, signed_zero] at hne
      exact hne rfl

/-- A quotient is rounded to a nearest float, if to a finite one. -/
theorem isNearest_ofRatio (hf : 0 < f.fractionBits) {negative : Bool} {num den : Nat} (hden : 0 < den)
    (h : (ofRatio negative num den : BinaryFloat f).isFinite = true) :
    (ofRatio negative num den : BinaryFloat f).IsNearest (signed negative (num / den)) := by
  refine isNearest_of_rounds hf (div_nonneg (Nat.cast_nonneg _) (Nat.cast_nonneg _)) h ?_
  exact (FloatFormat.contains_iff_rounds hden).1 ((FloatFormat.nearest_eq_iff hf hden (of_decide_eq_true h)).1 rfl)

/-- The float that a magnitude rounds to, behind a sign. -/
def ofRat (negative : Bool) (r : ℚ) : BinaryFloat f := ofRatio negative r.num.natAbs r.den

theorem natAbs_num_div_den {r : ℚ} (hr : 0 ≤ r) : (r.num.natAbs : ℚ) / r.den = r := by
  rw [Nat.cast_natAbs, abs_of_nonneg (Rat.num_nonneg.2 hr), Rat.num_div_den]

/-- A magnitude reads back as a finite float just when it lies in the interval of its pattern. -/
theorem ofRat_eq_iff (hf : 0 < f.fractionBits) {x : BinaryFloat f} (hx : x.isFinite = true) {r : ℚ}
    (hr : 0 ≤ r) : ofRat x.negative r = x ↔ f.Rounds x.pattern r := by
  have hnearest : f.nearest r.num.natAbs r.den = x.pattern ↔ _ :=
    FloatFormat.nearest_eq_iff hf r.den_pos (of_decide_eq_true hx)
  rw [FloatFormat.contains_iff_rounds r.den_pos, natAbs_num_div_den hr] at hnearest
  rw [← hnearest]
  constructor
  · intro h
    exact congrArg pattern h
  · intro h
    exact (BinaryFloat.mk.injEq ..).mpr ⟨rfl, h⟩

namespace IsNearest

variable {x y : BinaryFloat f} {r s : ℚ}

/-- Rounding keeps the order. -/
theorem value_le_value (hx : x.IsNearest r) (hy : y.IsNearest s) (h : r < s) : x.value ≤ y.value := by
  by_contra hlt
  rw [not_le] at hlt
  have hlow := (FloatFormat.abs_sub_le_iff_of_lt hlt r).2.1 (hx.nearest y hy.finite)
  have hhigh := (FloatFormat.abs_sub_le_iff_of_lt hlt s).1.1 (hy.nearest x hx.finite)
  linarith

/-- A number that is a float is not changed. -/
theorem value_eq (hx : x.IsNearest r) (hy : y.isFinite = true) (h : y.value = r) : x.value = r := by
  have hnear := hx.nearest y hy
  rw [h, sub_self, abs_zero] at hnear
  exact sub_eq_zero.1 (abs_nonpos_iff.1 hnear)

end IsNearest

end BinaryFloat

/-! ## Numbers that are floats -/

namespace FloatFormat

variable {f : FloatFormat}

theorem units_eq_significand (f : FloatFormat) (p : Nat) :
    f.units p = f.significand p * twoTo (p / twoTo f.fractionBits - 1) := by
  unfold units significand
  dsimp only
  split
  · rename_i h
    rw [h]
    exact (Nat.mul_one _).symm
  · rfl

theorem significand_lt (f : FloatFormat) (p : Nat) : f.significand p < 2 * twoTo f.fractionBits := by
  have hr : p % twoTo f.fractionBits < twoTo f.fractionBits := Nat.mod_lt _ (twoTo_pos _)
  unfold significand
  split <;> omega

/-- Digits that fit into a significand are a pattern's at any exponent. -/
theorem exists_units_eq (f : FloatFormat) {k : Nat} (hk : k ≤ 2 * twoTo f.fractionBits) (j : Nat) :
    ∃ p, f.units p = k * twoTo j := by
  induction j generalizing k with
  | zero => exact ⟨0 * twoTo f.fractionBits + k, units_step hk (.inl rfl)⟩
  | succ j ih =>
    by_cases hsmall : k ≤ twoTo f.fractionBits
    · obtain ⟨p, hp⟩ := ih (k := 2 * k) (by omega)
      exact ⟨p, by rw [hp, twoTo_succ, Nat.mul_left_comm, Nat.mul_assoc]⟩
    · exact ⟨(j + 1) * twoTo f.fractionBits + k, units_step hk (.inr (by omega))⟩

theorem units_infinity (he : 0 < f.exponentBits) :
    f.units f.infinity = twoTo (f.fractionBits + (twoTo f.exponentBits - 2)) := by
  have htwo : 2 ≤ twoTo f.exponentBits := twoTo_le he
  have hsplit : f.infinity = (twoTo f.exponentBits - 2) * twoTo f.fractionBits + twoTo f.fractionBits := by
    rw [infinity, ← Nat.add_one_mul]
    congr 1
    omega
  rw [hsplit, units_step (by omega) (.inr (Nat.le_refl _)), twoTo_add]

theorem lt_infinity_of_units_lt {p : Nat} (h : f.units p < f.units f.infinity) : p < f.infinity := by
  by_contra hle
  exact absurd (units_le_units f (Nat.le_of_not_lt hle)) (Nat.not_le.2 h)

end FloatFormat

/-- A number of so few digits below infinity is a float. -/
theorem BinaryFloat.exists_value_eq {f : FloatFormat} {k j : Nat} (hk : k ≤ 2 * twoTo f.fractionBits)
    (hroom : k * twoTo j < f.units f.infinity) (negative : Bool) :
    ∃ y : BinaryFloat f, y.isFinite = true ∧
      y.value = signed negative ((k * twoTo j : Nat) / (twoTo f.scale : ℚ)) := by
  obtain ⟨p, hp⟩ := f.exists_units_eq hk j
  have hlt : p < f.infinity := FloatFormat.lt_infinity_of_units_lt (hp ▸ hroom)
  refine ⟨⟨negative, p, Nat.lt_trans hlt f.infinity_lt_patterns⟩, decide_eq_true hlt, ?_⟩
  rw [value, FloatFormat.magnitude, hp]

end TableQuery
