import TableQuery.Proofs.Building
import TableQuery.Proofs.Rounding
/-!
# Numbers of a wider type

An integer that takes a float type is rounded to a nearest float, so order is kept and small integers are
not changed. A single float is a double one as it is. Nothing else changes type, and nothing changes twice.
-/

namespace TableQuery

/-! ## Integers -/

theorem signed_natAbs (n : Int) : signed (decide (n < 0)) ((n.natAbs : ℚ) / (1 : Nat)) = n := by
  rw [Nat.cast_one, div_one, Nat.cast_natAbs]
  by_cases hn : n < 0
  · rw [decide_eq_true hn, abs_of_neg hn]
    simp [signed]
  · rw [decide_eq_false hn, abs_of_nonneg (not_lt.1 hn)]
    rfl

namespace BinaryFloat

variable {f : FloatFormat}

theorem isNearest_ofInt (hf : 0 < f.fractionBits) {n : Int} (h : (ofInt n : BinaryFloat f).isFinite = true) :
    (ofInt n : BinaryFloat f).IsNearest n := by
  rw [← signed_natAbs n]
  exact isNearest_ofRatio hf Nat.one_pos h

/-- Integers of no more bits than the significand are floats. -/
theorem value_ofInt (hf : 0 < f.fractionBits) (he : 0 < f.exponentBits)
    (hscale : f.scale + 1 < twoTo f.exponentBits - 2) {n : Int}
    (h : (ofInt n : BinaryFloat f).isFinite = true) (hn : n.natAbs ≤ twoTo (f.fractionBits + 1)) :
    (ofInt n : BinaryFloat f).value = n := by
  have hroom : n.natAbs * twoTo f.scale < f.units f.infinity := by
    rw [FloatFormat.units_infinity he]
    calc n.natAbs * twoTo f.scale
        ≤ twoTo (f.fractionBits + 1) * twoTo f.scale := Nat.mul_le_mul_right _ hn
      _ = twoTo (f.fractionBits + 1 + f.scale) := (twoTo_add _ _).symm
      _ < twoTo (f.fractionBits + (twoTo f.exponentBits - 2)) :=
        Nat.pow_lt_pow_right (by decide) (by omega)
  obtain ⟨y, hfinite, hy⟩ := exists_value_eq (twoTo_succ _ ▸ hn) hroom (decide (n < 0))
  refine (isNearest_ofInt hf h).value_eq hfinite ?_
  rw [hy, Nat.cast_mul, mul_div_cancel_right₀ _ (FloatFormat.twoTo_cast_pos _).ne', ← signed_natAbs n,
    Nat.cast_one, div_one]

/-! ## Single floats -/

/-- The digits of a single float fit into a double one, and so does its exponent. -/
theorem value_convert {x : BinaryFloat .single} (h : x.isFinite = true) :
    (x.convert : BinaryFloat .double).value = x.value := by
  have hfinite := isFinite_convert h
  have heq : (x.convert : BinaryFloat .double) =
      ofRatio x.negative (FloatFormat.single.units x.pattern) (twoTo FloatFormat.single.scale) := if_pos h
  -- The steps of double floats are smaller by `g` bits, and there is room above as well.
  obtain ⟨g, hscale, hexponents⟩ : ∃ g, FloatFormat.double.scale = FloatFormat.single.scale + g ∧
      FloatFormat.single.fractionBits + 1 + (twoTo FloatFormat.single.exponentBits - 3) + g ≤
        FloatFormat.double.fractionBits + (twoTo FloatFormat.double.exponentBits - 2) :=
    ⟨925, by decide, by decide⟩
  have hdigits : FloatFormat.single.significand x.pattern ≤ 2 * twoTo FloatFormat.double.fractionBits :=
    Nat.le_of_lt (Nat.lt_of_lt_of_le (FloatFormat.significand_lt .single x.pattern) (by decide))
  have hbound := FloatFormat.units_lt (of_decide_eq_true h)
  have hunits := FloatFormat.units_eq_significand .single x.pattern
  generalize x.pattern / twoTo FloatFormat.single.fractionBits - 1 = e at hunits
  rw [hunits] at hbound
  have hroom : FloatFormat.single.significand x.pattern * twoTo (e + g) <
      FloatFormat.double.units FloatFormat.double.infinity := by
    rw [FloatFormat.units_infinity (by decide), twoTo_add, ← Nat.mul_assoc]
    refine Nat.lt_of_lt_of_le (Nat.mul_lt_mul_of_pos_right hbound (twoTo_pos g)) ?_
    rw [← twoTo_add]
    exact twoTo_le hexponents
  obtain ⟨y, hy, hvalue⟩ := exists_value_eq hdigits hroom x.negative
  have hsame : y.value =
      signed x.negative (FloatFormat.single.units x.pattern / (twoTo FloatFormat.single.scale : ℚ)) := by
    rw [hvalue, hunits, hscale, twoTo_add, twoTo_add, ← Nat.mul_assoc, Nat.cast_mul, Nat.cast_mul _ (twoTo g),
      mul_div_mul_right _ _ (FloatFormat.twoTo_cast_pos g).ne']
  rw [heq] at hfinite ⊢
  exact (isNearest_ofRatio (by decide) (twoTo_pos _) hfinite).value_eq hy hsame

theorem negative_convert {x : BinaryFloat .single} (h : x.isFinite = true) :
    (x.convert : BinaryFloat .double).negative = x.negative := by
  rw [convert, if_pos h]
  rfl

end BinaryFloat

/-! ## Constants -/

namespace Value

/-- The number that a constant stands for. -/
def number? : Value → Option ℚ
  | int n => some n.toInt
  | float32 x => if x.isFinite then some x.value else none
  | float64 x => if x.isFinite then some x.value else none
  | _ => none

/-- The types among which constants are converted. -/
def Widens (a b : ScalarType) : Prop :=
  (a = .int ∧ (b = .float32 ∨ b = .float64)) ∨ (a = .float32 ∧ b = .float64)

theorem isFinite_single (n : Int64) : (BinaryFloat.ofInt n.toInt : BinaryFloat .single).isFinite = true :=
  literalError?_float32.1 (literalError?_widen (v := int n) rfl .float32)

theorem isFinite_double (n : Int64) : (BinaryFloat.ofInt n.toInt : BinaryFloat .double).isFinite = true :=
  literalError?_float64.1 (literalError?_widen (v := int n) rfl .float64)

theorem widen_of_not_widens {v : Value} {t : ScalarType} (h : ¬Widens v.type t) : v.widen t = v := by
  cases v <;> cases t <;> first | rfl | exact absurd h (by simp [Widens, type])

theorem widen_widen (v : Value) (t : ScalarType) : (v.widen t).widen t = v.widen t := by
  apply widen_of_not_widens
  cases v <;> cases t <;> simp [Widens, type, widen]

/-- Widened integers are in the order of the integers. -/
theorem number?_widen_int {m n : Int64} (h : m ≤ n) (t : ScalarType) :
    ∃ a b, ((int m).widen t).number? = some a ∧ ((int n).widen t).number? = some b ∧ a ≤ b := by
  have hle : m.toInt ≤ n.toInt := Int64.le_iff_toInt_le.1 h
  have hround {f : FloatFormat} (hf : 0 < f.fractionBits)
      (hfinite : ∀ k : Int64, (BinaryFloat.ofInt k.toInt : BinaryFloat f).isFinite = true) :
      (BinaryFloat.ofInt m.toInt : BinaryFloat f).value ≤ (BinaryFloat.ofInt n.toInt : BinaryFloat f).value := by
    rcases Int.lt_or_eq_of_le hle with hlt | heq
    · exact (BinaryFloat.isNearest_ofInt hf (hfinite m)).value_le_value
        (BinaryFloat.isNearest_ofInt hf (hfinite n)) (Int.cast_lt.2 hlt)
    · rw [heq]
  cases t with
  | float32 => exact ⟨_, _, if_pos (isFinite_single m), if_pos (isFinite_single n), hround (by decide) isFinite_single⟩
  | float64 => exact ⟨_, _, if_pos (isFinite_double m), if_pos (isFinite_double n), hround (by decide) isFinite_double⟩
  | _ => exact ⟨_, _, rfl, rfl, Int.cast_le.2 hle⟩

/-- Operands of a new node that are constants have literals, widened or not. -/
theorem literalError?_of_binary_apply {op : BinaryOp} {l r x : Expr} (h : op.apply l r = .ok x) {v : Value}
    (hv : .const v ∈ x.operands) : v.literalError? = none := by
  obtain ⟨hl, hr, h⟩ := BinaryOp.apply_eq_ok.1 h
  split at h
  · subst h
    simp only [Expr.operands, List.mem_cons, List.not_mem_nil, or_false] at hv
    rcases hv with rfl | rfl
    · exact hl v rfl
    · exact hr v rfl
  · rename_i htext
    obtain ⟨t, ht, rfl⟩ := h
    exact (Expr.sound_aligned hl hr ht htext).encodable v hv

/-- An integer is widened to a nearest float, the one with the even significand of two. It is that float if
it has no more bits than a significand, and integers keep their order. Single floats are double floats of the
same number and sign. No other constant changes, none changes twice, and those with a literal keep having
one, also under the node of an operator. -/
theorem widen_numbers :
    (∀ n : Int64,
      (∃ x : BinaryFloat .single, (int n).widen .float32 = float32 x ∧ x.IsNearest n.toInt ∧
        (n.toInt.natAbs ≤ twoTo 24 → x.value = n.toInt)) ∧
      ∃ x : BinaryFloat .double, (int n).widen .float64 = float64 x ∧ x.IsNearest n.toInt ∧
        (n.toInt.natAbs ≤ twoTo 53 → x.value = n.toInt)) ∧
      (∀ m n : Int64, m ≤ n → ∀ t, ∃ a b,
        ((int m).widen t).number? = some a ∧ ((int n).widen t).number? = some b ∧ a ≤ b) ∧
      (∀ x : BinaryFloat .single, x.isFinite = true → ∃ y : BinaryFloat .double,
        (float32 x).widen .float64 = float64 y ∧ y.isFinite = true ∧ y.value = x.value ∧
          y.negative = x.negative) ∧
      (∀ (v : Value) (t : ScalarType), ¬Widens v.type t → v.widen t = v) ∧
      (∀ (v : Value) (t : ScalarType), (v.widen t).widen t = v.widen t) ∧
      (∀ (v : Value) (t : ScalarType), v.literalError? = none → (v.widen t).literalError? = none) ∧
      ∀ (op : BinaryOp) (l r x : Expr), op.apply l r = .ok x →
        ∀ v, .const v ∈ x.operands → v.literalError? = none := by
  refine ⟨?_, ?_, ?_, ?_, widen_widen, ?_, ?_⟩
  · intro n
    constructor
    · exact ⟨_, rfl, BinaryFloat.isNearest_ofInt (by decide) (isFinite_single n),
        BinaryFloat.value_ofInt (by decide) (by decide) (by decide) (isFinite_single n)⟩
    · exact ⟨_, rfl, BinaryFloat.isNearest_ofInt (by decide) (isFinite_double n),
        BinaryFloat.value_ofInt (by decide) (by decide) (by decide) (isFinite_double n)⟩
  · intro m n h t
    exact number?_widen_int h t
  · intro x h
    exact ⟨_, rfl, BinaryFloat.isFinite_convert h, BinaryFloat.value_convert h, BinaryFloat.negative_convert h⟩
  · intro v t h
    exact widen_of_not_widens h
  · intro v t h
    exact literalError?_widen h t
  · intro op l r x h v hv
    exact literalError?_of_binary_apply h hv

/-- The first integer that is no single float, half way between two that are. -/
theorem widen_numbers_tie :
    ((16777216 : Int64).toInt.natAbs ≤ twoTo 24 ∧ (16777216 : Int64) ≤ 16777217 ∧
      (⟨true, 1, by decide⟩ : BinaryFloat .single).isFinite = true ∧ ¬Widens (int 1).type .text ∧
      (int 1).literalError? = none ∧
      BinaryOp.apply (.arithmetic .add) (.const (int 3)) (.field "price" .float32) =
        .ok (.binary (.arithmetic .add) .float32 (.const (.float32 (.ofInt 3))) (.field "price" .float32))) ∧
    (∃ x : BinaryFloat .single, (int 16777217).widen .float32 = float32 x ∧
      x.IsNearest (16777217 : Int64).toInt) ∧
    (∃ x : BinaryFloat .single, (int 16777216).widen .float32 = float32 x ∧
      x.value = (16777216 : Int64).toInt) ∧
    (∃ a b, ((int 16777216).widen .float32).number? = some a ∧
      ((int 16777217).widen .float32).number? = some b ∧ a ≤ b) ∧
    (∃ y : BinaryFloat .double, (float32 ⟨true, 1, by decide⟩).widen .float64 = float64 y ∧
      y.value = (⟨true, 1, by decide⟩ : BinaryFloat .single).value) ∧
    (int 1).widen .text = int 1 ∧ ((int 1).widen .float32).literalError? = none ∧
      (float32 (.ofInt 3)).literalError? = none := by
  obtain ⟨hnearest, horder, hconvert, hsame, -, hliteral, happly⟩ := widen_numbers
  have hexact : (16777216 : Int64).toInt.natAbs ≤ twoTo 24 := by decide
  have hle : (16777216 : Int64) ≤ 16777217 := by decide
  have hfinite : (⟨true, 1, by decide⟩ : BinaryFloat .single).isFinite = true := by decide
  have hwidens : ¬Widens (int 1).type .text := by simp [Widens]
  have hadd : BinaryOp.apply (.arithmetic .add) (.const (int 3)) (.field "price" .float32) =
      .ok (.binary (.arithmetic .add) .float32 (.const (.float32 (.ofInt 3))) (.field "price" .float32)) := rfl
  obtain ⟨x, hx, hxnear, -⟩ := (hnearest 16777217).1
  obtain ⟨z, hz, -, hzvalue⟩ := (hnearest 16777216).1
  obtain ⟨y, hy, -, hyvalue, -⟩ := hconvert _ hfinite
  exact ⟨⟨hexact, hle, hfinite, hwidens, rfl, hadd⟩, ⟨x, hx, hxnear⟩, ⟨z, hz, hzvalue hexact⟩,
    horder _ _ hle .float32, ⟨y, hy, hyvalue⟩, hsame _ _ hwidens, hliteral (int 1) .float32 rfl,
    happly _ _ _ _ hadd _ (by simp [Expr.operands])⟩

end Value

end TableQuery
