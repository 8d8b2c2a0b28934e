import TableQuery.Proofs.Acceptance
/-!
# Equality of expressions

Constants compare as numbers do, so a NaN equals nothing and the two zeros are equal. Expressions are equal
just when they hold no NaN and are the same tree once every zero is positive (`Expr.equal_iff`). No operator or
function lets a NaN in, and none can tell equal operands apart.
-/

namespace TableQuery

/-! ## Numbers -/

theorem FloatFormat.roundHalfEven_zero (d : Nat) : roundHalfEven 0 d = 0 := by
  have hdown : 2 * (0 % d) < d ∨ (2 * (0 % d) = d ∧ 0 / d % 2 = 0) := by
    rw [Nat.zero_mod, Nat.zero_div]
    omega
  rw [roundHalfEven, if_pos hdown, Nat.zero_div]

theorem FloatFormat.nearest_zero (f : FloatFormat) (den : Nat) : f.nearest 0 den = 0 := by
  simp [nearest, roundHalfEven_zero]

theorem FloatFormat.units_zero (f : FloatFormat) : f.units 0 = 0 := by simp [units]

namespace BinaryFloat

variable {f g : FloatFormat}

/-- The number with the sign of a zero dropped. -/
def canonical (x : BinaryFloat f) : BinaryFloat f :=
  if x.pattern = 0 then { x with negative := false } else x

theorem canonical_of_pattern_ne {x : BinaryFloat f} (h : x.pattern ≠ 0) : x.canonical = x := if_neg h

@[simp]
theorem pattern_canonical (x : BinaryFloat f) : x.canonical.pattern = x.pattern := by
  unfold canonical
  split <;> rfl

@[simp]
theorem canonical_canonical (x : BinaryFloat f) : x.canonical.canonical = x.canonical := by
  unfold canonical
  split <;> simp_all

theorem equal_iff {x y : BinaryFloat f} :
    x.equal y = true ↔ x.isNaN = false ∧ x.canonical = y.canonical := by
  obtain ⟨a, p, hp⟩ := x
  obtain ⟨b, q, hq⟩ := y
  simp only [equal, isNaN, canonical, Bool.and_eq_true, Bool.not_eq_true', beq_iff_eq, Bool.or_eq_true]
  constructor
  · rintro ⟨⟨⟨hx, -⟩, rfl⟩, rfl | rfl⟩
    · exact ⟨hx, rfl⟩
    · exact ⟨hx, rfl⟩
  · rintro ⟨hx, h⟩
    split at h <;> split at h <;> simp_all

theorem isNaN_of_isFinite {x : BinaryFloat f} (h : x.isFinite = true) : x.isNaN = false := by
  simp only [isFinite, isNaN, decide_eq_true_eq, decide_eq_false_iff_not] at *
  omega

theorem isNaN_ofRatio (negative : Bool) (num den : Nat) :
    (ofRatio negative num den : BinaryFloat f).isNaN = false :=
  decide_eq_false (Nat.not_lt.2 (Nat.min_le_left _ _))

theorem isNaN_convert {x : BinaryFloat f} (h : x.isNaN = false) : (x.convert : BinaryFloat g).isNaN = false := by
  unfold convert
  split
  · exact isNaN_ofRatio _ _ _
  · rw [if_neg (by simp [h])]
    simp [isNaN, infinite]

/-- A zero converts to a zero, whatever its sign. -/
theorem canonical_convert (x : BinaryFloat .single) :
    (x.canonical.convert : BinaryFloat .double).canonical = (x.convert : BinaryFloat .double).canonical := by
  by_cases hx : x.pattern = 0
  · have hzero (negative : Bool) (hp : 0 < FloatFormat.single.patterns) :
        ((⟨negative, 0, hp⟩ : BinaryFloat .single).convert : BinaryFloat .double).canonical =
          ⟨false, 0, by decide⟩ := by
      have hfinite : (⟨negative, 0, hp⟩ : BinaryFloat .single).isFinite = true := by decide +revert
      simp [convert, hfinite, canonical, ofRatio, FloatFormat.units_zero, FloatFormat.nearest_zero]
    obtain ⟨a, p, hp⟩ := x
    cases hx
    exact (hzero false hp).trans (hzero a hp).symm
  · rw [canonical_of_pattern_ne hx]

end BinaryFloat

/-! ## Constants -/

namespace Value

def isNaN : Value → Bool
  | float32 x => x.isNaN
  | float64 x => x.isNaN
  | _ => false

/-- The constant with the sign of a zero dropped. -/
def canonical : Value → Value
  | float32 x => float32 x.canonical
  | float64 x => float64 x.canonical
  | v => v

theorem equal_iff {v w : Value} : v.equal w = true ↔ v.isNaN = false ∧ v.canonical = w.canonical := by
  cases v <;> cases w <;> simp [equal, isNaN, canonical, BinaryFloat.equal_iff]

@[simp]
theorem type_canonical (v : Value) : v.canonical.type = v.type := by cases v <;> rfl

theorem isNaN_of_literalError? {v : Value} (h : v.literalError? = none) : v.isNaN = false := by
  cases v with
  | float32 x => exact BinaryFloat.isNaN_of_isFinite (literalError?_float32.1 h)
  | float64 x => exact BinaryFloat.isNaN_of_isFinite (literalError?_float64.1 h)
  | _ => rfl

@[simp]
theorem isNaN_canonical (v : Value) : v.canonical.isNaN = v.isNaN := by
  cases v <;> simp [canonical, isNaN, BinaryFloat.isNaN]

/-- A zero has a literal under either sign, and no other constant is changed. -/
@[simp]
theorem literalError?_canonical (v : Value) : v.canonical.literalError? = v.literalError? := by
  have hfloat {f : FloatFormat} (hf : 0 < f.infinity) (x : BinaryFloat f) :
      x.canonical = x ∨ (x.isFinite = true ∧ x.canonical.isFinite = true) := by
    by_cases hx : x.pattern = 0
    · exact .inr (by simp [BinaryFloat.isFinite, hx, hf])
    · exact .inl (BinaryFloat.canonical_of_pattern_ne hx)
  cases v with
  | float32 x =>
    rcases hfloat (by decide) x with h | ⟨hx, hc⟩
    · rw [canonical, h]
    · rw [canonical, literalError?_float32.2 hx, literalError?_float32.2 hc]
  | float64 x =>
    rcases hfloat (by decide) x with h | ⟨hx, hc⟩
    · rw [canonical, h]
    · rw [canonical, literalError?_float64.2 hx, literalError?_float64.2 hc]
  | _ => rfl

theorem isNaN_widen {v : Value} (h : v.isNaN = false) (t : ScalarType) : (v.widen t).isNaN = false := by
  cases v with
  | int n =>
    cases t with
    | float32 => exact BinaryFloat.isNaN_ofRatio _ _ _
    | float64 => exact BinaryFloat.isNaN_ofRatio _ _ _
    | _ => rfl
  | float32 x =>
    cases t with
    | float64 => exact BinaryFloat.isNaN_convert h
    | _ => exact h
  | _ => exact h

theorem canonical_widen (v : Value) (t : ScalarType) :
    (v.canonical.widen t).canonical = (v.widen t).canonical := by
  cases v with
  | float32 x =>
    cases t with
    | float64 => exact congrArg float64 (BinaryFloat.canonical_convert x)
    | _ => simp [canonical, widen]
  | float64 x => simp [canonical, widen]
  | _ => rfl

theorem widen_congr {v w : Value} (h : v.equal w = true) (t : ScalarType) :
    (v.widen t).equal (w.widen t) = true := by
  obtain ⟨hv, hvw⟩ := equal_iff.1 h
  refine equal_iff.2 ⟨isNaN_widen hv t, ?_⟩
  rw [← canonical_widen v, hvw, canonical_widen w]

end Value

/-! ## Trees -/

namespace Expr

mutual
/-- The tree with the signs of its zeros dropped. -/
def canonical : Expr → Expr
  | const v => const v.canonical
  | field name t => field name t
  | unary op t x => unary op t x.canonical
  | binary op t l r => binary op t l.canonical r.canonical
  | call f t args => call f t (canonicals args)

/-- Arguments without the signs of their zeros. -/
def canonicals : List Expr → List Expr
  | [] => []
  | x :: xs => x.canonical :: canonicals xs
end

/-- If the expression is a constant, it is no NaN. -/
def IsNumber (x : Expr) : Prop := ∀ v, x = const v → v.isNaN = false

theorem isNumber_const {v : Value} : (const v).IsNumber ↔ v.isNaN = false := by simp [IsNumber]

theorem canonicals_eq (xs : List Expr) : canonicals xs = xs.map canonical := by
  induction xs with
  | nil => rfl
  | cons x xs ih => rw [canonicals, ih, List.map_cons]

theorem equals_iff {xs ys : List Expr} :
    equals xs ys = true ↔ List.Forall₂ (fun x y => x.equal y = true) xs ys := by
  induction xs generalizing ys with
  | nil => cases ys <;> simp [equals]
  | cons x xs ih => cases ys <;> simp [equals, ih]

/-- Equality is that of canonical trees, among trees without a NaN. -/
theorem equals_iff_of_forall {xs ys : List Expr}
    (h : ∀ x ∈ xs, ∀ y, x.equal y = true ↔ x.Every IsNumber ∧ x.canonical = y.canonical) :
    equals xs ys = true ↔ (∀ x ∈ xs, x.Every IsNumber) ∧ canonicals xs = canonicals ys := by
  induction xs generalizing ys with
  | nil => cases ys <;> simp [equals, canonicals]
  | cons x xs ih =>
    obtain ⟨hx, hxs⟩ := List.forall_mem_cons.1 h
    cases ys with
    | nil => simp [equals, canonicals]
    | cons y ys =>
      simp only [equals, canonicals, Bool.and_eq_true, hx, ih hxs, List.forall_mem_cons, List.cons.injEq]
      exact and_and_and_comm

/-- Equal are the trees without a NaN that are the same once their zeros have no sign. -/
theorem equal_iff {x y : Expr} : x.equal y = true ↔ x.Every IsNumber ∧ x.canonical = y.canonical := by
  -- Only constants are compared by more than their parts.
  induction x generalizing y with
  | const v => cases y <;> simp [equal, canonical, isNumber_const, Value.equal_iff]
  | field name t => cases y <;> simp [equal, canonical, IsNumber]
  | unary op t x ih =>
    cases y with
    | unary p u y =>
      simp only [equal, canonical, every_unary, Bool.and_eq_true, beq_iff_eq, unary.injEq, ih]
      simp only [IsNumber, reduceCtorEq, false_implies, implies_true, true_and]
      tauto
    | _ => simp [equal, canonical]
  | binary op t l r ihl ihr =>
    cases y with
    | binary p u m s =>
      simp only [equal, canonical, every_binary, Bool.and_eq_true, beq_iff_eq, binary.injEq, ihl, ihr]
      simp only [IsNumber, reduceCtorEq, false_implies, implies_true, true_and]
      tauto
    | _ => simp [equal, canonical]
  | call f t args ih =>
    cases y with
    | call g u ys =>
      simp only [equal, canonical, every_call, Bool.and_eq_true, beq_iff_eq, call.injEq,
        equals_iff_of_forall fun x hx y => ih x hx]
      simp only [IsNumber, reduceCtorEq, false_implies, implies_true, true_and]
      tauto
    | _ => simp [equal, canonical]

theorem every_isNumber_canonical {x : Expr} : x.canonical.Every IsNumber ↔ x.Every IsNumber := by
  induction x with
  | const v => simp [canonical, isNumber_const]
  | field name t => rfl
  | unary op t x ih => simp [canonical, every_unary, IsNumber, ih]
  | binary op t l r ihl ihr => simp [canonical, every_binary, IsNumber, ihl, ihr]
  | call f t args ih =>
    simp only [canonical, every_call, canonicals_eq, List.forall_mem_map]
    exact and_congr (by simp [IsNumber]) (forall₂_congr ih)

/-! ### What equal trees share -/

@[simp]
theorem type_canonical (x : Expr) : x.canonical.type = x.type := by
  cases x with
  | const v => exact v.type_canonical
  | _ => rfl

theorem operands_canonical (x : Expr) : x.canonical.operands = x.operands.map canonical := by
  cases x <;> simp [canonical, operands, canonicals_eq]

theorem nodeCount_canonical (x : Expr) : x.canonical.nodeCount = x.nodeCount := by
  induction x using operandInduct with
  | h x ih =>
    have hsame : x.operands.map (nodeCount ∘ canonical) = x.operands.map nodeCount := List.map_congr_left ih
    rw [nodeCount_eq, nodeCount_eq x, operands_canonical, List.map_map, hsame]

theorem depth_canonical (x : Expr) : x.canonical.depth = x.depth := by
  induction x using operandInduct with
  | h x ih =>
    have hsame : x.operands.map (depth ∘ canonical) = x.operands.map depth := List.map_congr_left ih
    rw [depth_eq, depth_eq x, operands_canonical, depths_eq, depths_eq, List.map_map, hsame]

theorem equal_comm (x y : Expr) : x.equal y = y.equal x := by
  rw [Bool.eq_iff_iff, equal_iff, equal_iff]
  constructor
  · rintro ⟨hx, hxy⟩
    exact ⟨every_isNumber_canonical.1 (hxy ▸ every_isNumber_canonical.2 hx), hxy.symm⟩
  · rintro ⟨hy, hyx⟩
    exact ⟨every_isNumber_canonical.1 (hyx ▸ every_isNumber_canonical.2 hy), hyx.symm⟩

theorem equal_trans {x y z : Expr} (hxy : x.equal y = true) (hyz : y.equal z = true) : x.equal z = true := by
  rw [equal_iff] at hxy hyz ⊢
  exact ⟨hxy.1, hxy.2.trans hyz.2⟩

theorem type_eq_of_equal {x y : Expr} (h : x.equal y = true) : x.type = y.type := by
  rw [← type_canonical x, (equal_iff.1 h).2, type_canonical]

/-! ## Equal operands -/

theorem check_congr {x y : Expr} (h : x.equal y = true) : x.check = y.check := by
  obtain ⟨-, hxy⟩ := equal_iff.1 h
  have hcheck (z : Expr) : z.canonical.check = z.check := by
    cases z with
    | const v => simp [canonical, check]
    | _ => rfl
  rw [← hcheck x, hxy, hcheck y]

theorem widen_congr {x y : Expr} (h : x.equal y = true) (t : ScalarType) :
    (x.widen t).equal (y.widen t) = true := by
  cases x with
  | const v =>
    cases y with
    | const w => exact Value.widen_congr h t
    | _ => cases h
  | _ =>
    cases y with
    | const w => cases h
    | _ => exact h

theorem alignNumbers_congr {l r m s : Expr} (hl : l.equal m = true) (hr : r.equal s = true) :
    (l.alignNumbers r).1.equal (m.alignNumbers s).1 = true ∧
      (l.alignNumbers r).2.equal (m.alignNumbers s).2 = true := by
  unfold alignNumbers
  rw [type_eq_of_equal hl, type_eq_of_equal hr]
  cases m.type.widest? s.type with
  | none => exact ⟨hl, hr⟩
  | some t => exact ⟨widen_congr hl t, widen_congr hr t⟩

/-- Both fail with one error, or both give a result and the results are equal. -/
inductive Agree : Except ExprError Expr → Except ExprError Expr → Prop
  | ok {x y : Expr} (h : x.equal y = true) : Agree (.ok x) (.ok y)
  | error (e : ExprError) : Agree (.error e) (.error e)

end Expr

open TableQuery.Expr

theorem UnaryOp.apply_congr (op : UnaryOp) {x y : Expr} (h : x.equal y = true) :
    Agree (op.apply x) (op.apply y) := by
  rw [apply, apply, check_congr h, type_eq_of_equal h]
  cases y.check with
  | error e => exact .error e
  | ok u =>
    cases op.resultType? y.type with
    | none => exact .error _
    | some t => exact .ok (by simp [equal, h])

namespace Function

theorem checkArguments_congr (f : Function) {xs ys : List Expr}
    (h : List.Forall₂ (fun x y => x.equal y = true) xs ys) (i : Nat) (params : List ParamKind) :
    f.checkArguments i xs params = f.checkArguments i ys params := by
  induction h generalizing i params with
  | nil => rfl
  | cons hxy _ ih =>
    cases params with
    | nil => rfl
    | cons p ps => rw [checkArguments, checkArguments, check_congr hxy, type_eq_of_equal hxy, ih]

theorem apply_congr (f : Function) {xs ys : List Expr} (h : List.Forall₂ (fun x y => x.equal y = true) xs ys) :
    Agree (f.apply xs) (f.apply ys) := by
  have hfirst : xs.head?.elim ScalarType.null Expr.type = ys.head?.elim .null Expr.type := by
    cases h with
    | nil => rfl
    | cons hxy _ => exact type_eq_of_equal hxy
  unfold apply
  dsimp only
  rw [h.length_eq, checkArguments_congr f h, hfirst]
  split
  · exact .error _
  · cases f.checkArguments 0 ys f.signature.params with
    | error e => exact .error e
    | ok u => exact .ok (by simp [equal, equals_iff.2 h])

end Function

theorem BinaryOp.apply_congr (op : BinaryOp) {l r m s : Expr} (hl : l.equal m = true) (hr : r.equal s = true) :
    Agree (op.apply l r) (op.apply m s) := by
  rw [apply, apply, check_congr hl, check_congr hr, type_eq_of_equal hl, type_eq_of_equal hr]
  cases m.check with
  | error e => exact .error e
  | ok u =>
    cases s.check with
    | error e => exact .error e
    | ok u =>
      simp only [ok_bind]
      split
      · exact Function.concat.apply_congr (.cons hl (.cons hr .nil))
      · cases op.resultType? m.type s.type with
        | none => exact .error _
        | some t =>
          obtain ⟨hleft, hright⟩ := alignNumbers_congr hl hr
          exact .ok (by simp [equal, hleft, hright])

namespace Expr

/-! ## Built expressions -/

/-- Below the root of a built expression every constant has a literal, which no NaN has. -/
theorem Built.eq_of_isNaN {x : Expr} (h : x.Built) {v : Value} (hv : (Expr.const v).Within x) (hnan : v.isNaN = true) :
    x = Expr.const v := by
  rcases eq_or_mem_operands_of_within hv with heq | ⟨z, hz, hmem⟩
  · exact heq.symm
  · rw [Value.isNaN_of_literalError? ((h.every_sound z hz).encodable v hmem)] at hnan
    cases hnan

theorem Built.equal_self_iff {x : Expr} (h : x.Built) :
    x.equal x = true ↔ ¬∃ v, x = Expr.const v ∧ v.isNaN = true := by
  simp only [equal_iff, and_true, not_exists, not_and, Bool.not_eq_true]
  constructor
  · intro hx
    exact hx.here
  · rintro hx y hy v rfl
    by_contra hnan
    rw [Bool.not_eq_false] at hnan
    rw [hx v (h.eq_of_isNaN hy hnan)] at hnan
    cases hnan

/-- A built expression equals itself unless it is a NaN by itself, and none holds a NaN below its root. Equality
is symmetric and transitive, equal expressions have one type and one size, and whatever is applied to equal
operands gives equal results or one error. -/
theorem equality_of_built :
    (∀ x : Expr, x.Built → (x.equal x = true ↔ ¬∃ v, x = const v ∧ v.isNaN = true) ∧
      ∀ v, (const v).Within x → v.isNaN = true → x = const v) ∧
    (∀ x y : Expr, x.equal y = true → y.equal x = true) ∧
    (∀ x y z : Expr, x.equal y = true → y.equal z = true → x.equal z = true) ∧
    (∀ x y : Expr, x.equal y = true → x.type = y.type ∧ x.nodeCount = y.nodeCount ∧ x.depth = y.depth) ∧
    (∀ (op : UnaryOp) (x y : Expr), x.equal y = true → Agree (op.apply x) (op.apply y)) ∧
    (∀ (op : BinaryOp) (l r m s : Expr), l.equal m = true → r.equal s = true →
      Agree (op.apply l r) (op.apply m s)) ∧
    ∀ (f : Function) (xs ys : List Expr), List.Forall₂ (fun x y => x.equal y = true) xs ys →
      Agree (f.apply xs) (f.apply ys) := by
  refine ⟨?_, ?_, ?_, ?_, ?_, ?_, ?_⟩
  · intro x hx
    exact ⟨hx.equal_self_iff, fun v hv hnan => hx.eq_of_isNaN hv hnan⟩
  · intro x y h
    rwa [equal_comm]
  · intro x y z hxy hyz
    exact equal_trans hxy hyz
  · intro x y h
    have hxy := (equal_iff.1 h).2
    refine ⟨type_eq_of_equal h, ?_, ?_⟩
    · rw [← nodeCount_canonical x, hxy, nodeCount_canonical]
    · rw [← depth_canonical x, hxy, depth_canonical]
  · intro op x y h
    exact op.apply_congr h
  · intro op l r m s hl hr
    exact op.apply_congr hl hr
  · intro f xs ys h
    exact f.apply_congr h

/-- The two zeros, in single precision beside a double field, where they are widened. -/
theorem equality_of_built_zeros :
    let zero : Expr := const (.float32 ⟨false, 0, by decide⟩)
    let minus : Expr := const (.float32 ⟨true, 0, by decide⟩)
    let price : Expr := field "price" .float64
    let op : BinaryOp := .comparison .eq
    zero.equal minus = true ∧ minus.equal zero = true ∧ zero.equal zero = true ∧ price.equal price = true ∧
      zero.nodeCount = minus.nodeCount ∧ Agree (op.apply price zero) (op.apply price minus) ∧
      Agree (UnaryOp.negate.apply zero) (UnaryOp.negate.apply minus) ∧
      Agree (Function.round.apply [zero]) (Function.round.apply [minus]) := by
  intro zero minus price op
  obtain ⟨hself, hsymm, htrans, hshare, hunary, hbinary, hcall⟩ := equality_of_built
  have hzeros : zero.equal minus = true := rfl
  have hback := hsymm _ _ hzeros
  have hprice : price.equal price = true := (hself price (.field _ _)).1.2 (by simp [price])
  exact ⟨hzeros, hback, htrans _ _ _ hzeros hback, hprice, (hshare _ _ hzeros).2.1, hbinary op _ _ _ _ hprice hzeros,
    hunary _ _ _ hzeros, hcall _ _ _ (.cons hzeros .nil)⟩

end Expr

end TableQuery
