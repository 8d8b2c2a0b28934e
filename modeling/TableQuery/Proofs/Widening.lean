import TableQuery.Literal
/-!
# Widening constants

Rounding stays finite as long as the exponents of the format reach. Those of every wider type reach
for the numbers that are widened to it, so a constant that has a literal still has one afterwards.
-/

namespace TableQuery

/-! ## Powers of two -/

theorem twoTo_pos (n : Nat) : 0 < twoTo n := Nat.two_pow_pos n

theorem twoTo_add (m n : Nat) : twoTo (m + n) = twoTo m * twoTo n := Nat.pow_add 2 m n

theorem twoTo_succ (n : Nat) : twoTo (n + 1) = 2 * twoTo n := by
  rw [twoTo_add, Nat.mul_comm]

theorem twoTo_le {m n : Nat} (h : m ≤ n) : twoTo m ≤ twoTo n :=
  Nat.pow_le_pow_right Nat.two_pos h

namespace FloatFormat

variable {f : FloatFormat}

/-! ## Bounds -/

theorem roundHalfEven_le (n d : Nat) : roundHalfEven n d ≤ n / d + 1 := by
  unfold roundHalfEven
  dsimp only
  split <;> omega

/-- The shift leaves as many bits as a significand has. -/
theorem div_shift_lt (f : FloatFormat) (m : Nat) :
    m / twoTo (m.log2 - f.fractionBits) < twoTo (f.fractionBits + 1) := by
  rw [Nat.div_lt_iff_lt_mul (twoTo_pos _), ← twoTo_add]
  exact Nat.lt_of_lt_of_le Nat.lt_log2_self (twoTo_le (by omega))

/-- A number of at most `fractionBits + 1 + s` bits rounds to an exponent of at most `s + 2`. -/
theorem nearest_le {num den s : Nat}
    (h : num * twoTo f.scale / den < twoTo (f.fractionBits + 1 + s)) :
    f.nearest num den ≤ (s + 2) * twoTo f.fractionBits := by
  unfold nearest
  dsimp only
  generalize hm : num * twoTo f.scale / den = m at h
  have hshift : m.log2 - f.fractionBits ≤ s := by
    by_cases hm0 : m = 0
    · simp [hm0]
    · have := (Nat.log2_lt hm0).2 h
      omega
  have hq := f.div_shift_lt m
  generalize m.log2 - f.fractionBits = shift at hshift hq
  have hround := roundHalfEven_le (num * twoTo f.scale) (den * twoTo shift)
  rw [← Nat.div_div_eq_div_mul, hm] at hround
  calc min f.infinity (shift * twoTo f.fractionBits +
        roundHalfEven (num * twoTo f.scale) (den * twoTo shift))
      ≤ shift * twoTo f.fractionBits + twoTo (f.fractionBits + 1) :=
        Nat.le_trans (Nat.min_le_right _ _) (by omega)
    _ ≤ s * twoTo f.fractionBits + 2 * twoTo f.fractionBits := by
        rw [twoTo_succ]
        exact Nat.add_le_add_right (Nat.mul_le_mul_right _ hshift) _
    _ = (s + 2) * twoTo f.fractionBits := by rw [Nat.add_mul]

/-- Finite magnitudes end below the power of two that infinity stands in place of. -/
theorem units_lt {p : Nat} (h : p < f.infinity) :
    f.units p < twoTo (f.fractionBits + 1 + (twoTo f.exponentBits - 3)) := by
  have hexp : p / twoTo f.fractionBits < twoTo f.exponentBits - 1 :=
    (Nat.div_lt_iff_lt_mul (twoTo_pos _)).2 h
  have hfrac : p % twoTo f.fractionBits < twoTo f.fractionBits := Nat.mod_lt _ (twoTo_pos _)
  unfold units
  dsimp only
  split
  · exact Nat.lt_of_lt_of_le hfrac (twoTo_le (by omega))
  · rw [twoTo_add, twoTo_succ]
    exact Nat.mul_lt_mul_of_lt_of_le (by omega) (twoTo_le (by omega)) (twoTo_pos _)

end FloatFormat

namespace BinaryFloat

variable {f : FloatFormat}

/-! ## Finite results -/

theorem isFinite_ofRatio {negative : Bool} {num den s : Nat}
    (h : num * twoTo f.scale / den < twoTo (f.fractionBits + 1 + s))
    (hs : (s + 2) * twoTo f.fractionBits < f.infinity) :
    (ofRatio negative num den : BinaryFloat f).isFinite = true := by
  exact decide_eq_true (Nat.lt_of_le_of_lt (FloatFormat.nearest_le h) hs)

/-- Integers of 64 bits lie far below the largest float of a format that has room for them. -/
theorem isFinite_ofInt {n : Int} {s : Nat} (hn : n.natAbs ≤ twoTo 63)
    (hscale : 63 + f.scale < f.fractionBits + 1 + s)
    (hs : (s + 2) * twoTo f.fractionBits < f.infinity) : (ofInt n : BinaryFloat f).isFinite = true := by
  refine isFinite_ofRatio (s := s) ?_ hs
  rw [Nat.div_one]
  calc n.natAbs * twoTo f.scale
      ≤ twoTo 63 * twoTo f.scale := Nat.mul_le_mul_right _ hn
    _ = twoTo (63 + f.scale) := (twoTo_add _ _).symm
    _ < twoTo (f.fractionBits + 1 + s) := Nat.pow_lt_pow_right (by decide) hscale

theorem isFinite_convert {x : BinaryFloat .single} (h : x.isFinite = true) :
    (x.convert : BinaryFloat .double).isFinite = true := by
  unfold convert
  rw [if_pos h]
  refine isFinite_ofRatio (s := 1149) ?_ (by decide)
  have hu := FloatFormat.units_lt (of_decide_eq_true h)
  have hscale : FloatFormat.double.scale = 925 + FloatFormat.single.scale := by decide
  rw [hscale, twoTo_add, ← Nat.mul_assoc, Nat.mul_div_cancel _ (twoTo_pos _)]
  have hbits : FloatFormat.double.fractionBits + 1 + 1149 =
      FloatFormat.single.fractionBits + 1 + (twoTo FloatFormat.single.exponentBits - 3) + 925 := by
    decide
  rw [hbits, twoTo_add]
  exact Nat.mul_lt_mul_of_pos_right hu (twoTo_pos _)

end BinaryFloat

/-! ## Literals of widened constants -/

theorem natAbs_toInt_le (n : Int64) : n.toInt.natAbs ≤ twoTo 63 := by
  have hlo := n.le_toInt
  have hhi := n.toInt_le
  simp only [Int64.toInt_maxValue] at hhi
  have : twoTo 63 = 9223372036854775808 := by decide
  omega

namespace Value

theorem literalError?_float32 {x : BinaryFloat .single} :
    (float32 x).literalError? = none ↔ x.isFinite = true := by
  cases h : x.isFinite <;> simp [literalError?, h]

theorem literalError?_float64 {x : BinaryFloat .double} :
    (float64 x).literalError? = none ↔ x.isFinite = true := by
  cases h : x.isFinite <;> simp [literalError?, h]

theorem literalError?_timestamp {t : Instant} :
    (timestamp t).literalError? = none ↔ 0 ≤ t.year ∧ t.year ≤ 9999 := by
  by_cases h : 0 ≤ t.year ∧ t.year ≤ 9999 <;> simp [literalError?, h]

/-- A constant that has a literal has one in every type it widens to. -/
theorem literalError?_widen {v : Value} (h : v.literalError? = none) (t : ScalarType) :
    (v.widen t).literalError? = none := by
  cases v with
  | int n =>
    have hn := natAbs_toInt_le n
    cases t with
    | float32 => exact literalError?_float32.2 (BinaryFloat.isFinite_ofInt (s := 189) hn (by decide) (by decide))
    | float64 => exact literalError?_float64.2 (BinaryFloat.isFinite_ofInt (s := 1085) hn (by decide) (by decide))
    | _ => exact h
  | float32 x =>
    cases t with
    | float64 => exact literalError?_float64.2 (BinaryFloat.isFinite_convert (literalError?_float32.1 h))
    | _ => exact h
  | _ => exact h

/-- Between numbers, widening to a type that is at least as wide gives that type. -/
theorem type_widen {v : Value} {t u : ScalarType} (h : v.type.widest? u = some t) :
    (v.widen t).type = t := by
  cases v <;> cases u <;> revert h <;> simp only [type] <;> intro h <;> cases h <;> rfl

end Value

end TableQuery
