import Mathlib.Algebra.Ring.Nat
import Mathlib.Data.List.Forall2
import TableQuery.Proofs.Building
/-!
# What applications accept

An operator or a function refuses its operands by rules that look at each of them in order: a constant without a
literal comes before any type, and the count of arguments before them all. What it refuses nothing of it joins
under one new node, with a constant among numbers converted where it is the narrower one.
-/

namespace TableQuery

/-! ## The rules -/

/-- The operand types of an operator. -/
def UnaryOp.Admits : UnaryOp → ScalarType → Prop
  | not, t => t = .bool
  | negate, t => t.isNumeric = true

/-- The operand types of an operator. Two texts can be added, though a call does it. -/
def BinaryOp.Admits : BinaryOp → ScalarType → ScalarType → Prop
  | logical _, l, r => l = .bool ∧ r = .bool
  | arithmetic .add, l, r => (l.isNumeric = true ∧ r.isNumeric = true) ∨ (l = .text ∧ r = .text)
  | arithmetic _, l, r => l.isNumeric = true ∧ r.isNumeric = true
  | comparison op, l, r => if op.isEquality then Expr.EqualityOperands l r else Expr.OrderOperands l r

/-- What an operator with one operand is refused with. -/
inductive UnaryOp.Refuses (op : UnaryOp) (x : Expr) : ExprError → Prop
  | literal {v : Value} {err : LiteralError} (hx : x = .const v) (h : v.literalError? = some err) :
    Refuses op x (.literal err)
  | operand (hx : x.Encodable) (h : ¬op.Admits x.type) : Refuses op x (.operand op x.type)

/-- What an operator with two operands is refused with. -/
inductive BinaryOp.Refuses (op : BinaryOp) (l r : Expr) : ExprError → Prop
  | left {v : Value} {err : LiteralError} (hl : l = .const v) (h : v.literalError? = some err) :
    Refuses op l r (.literal err)
  | right {v : Value} {err : LiteralError} (hl : l.Encodable) (hr : r = .const v)
    (h : v.literalError? = some err) : Refuses op l r (.literal err)
  | mismatch (hl : l.Encodable) (hr : r.Encodable) (h : ¬op.Admits l.type r.type) :
    Refuses op l r (.mismatch op l.type r.type)

namespace Function

/-- What the argument at a position is refused with. -/
inductive RefusesAt (f : Function) (args : List Expr) : Nat → ExprError → Prop
  | literal {i : Nat} {v : Value} {err : LiteralError} (hx : args[i]? = some (.const v))
    (h : v.literalError? = some err) : RefusesAt f args i (.literal err)
  | kind {i : Nat} {x : Expr} {p : ParamKind} (hx : args[i]? = some x) (hp : f.signature.params[i]? = some p)
    (he : x.Encodable) (h : ¬p.accepts x.type = true) : RefusesAt f args i (.argument f i p x.type)

/-- What a call is refused with: the count of its arguments, or the first of them that is refused. -/
inductive Refuses (f : Function) (args : List Expr) : ExprError → Prop
  | arity (h : args.length < f.signature.required ∨ f.signature.params.length < args.length) :
    Refuses f args (.arity f args.length)
  | argument {i : Nat} {err : ExprError} (hmin : f.signature.required ≤ args.length)
    (hmax : args.length ≤ f.signature.params.length) (h : f.RefusesAt args i err)
    (hfirst : ∀ j < i, ∀ other, ¬f.RefusesAt args j other) : Refuses f args err

end Function

namespace Expr

/-- An operand and how it stands in the node: a constant narrower than the wider of two numbers is converted to
that type, and anything else is as it was. -/
inductive Kept (wider? : Option ScalarType) : Expr → Expr → Prop
  | same {x : Expr} (h : ∀ v t, x = const v → wider? = some t → v.type = t) : Kept wider? x x
  | widened {v : Value} {t : ScalarType} (ht : wider? = some t) (hv : v.type ≠ t) :
    Kept wider? (const v) (const (v.widen t))

/-- A new node over operands, which it keeps in their order. -/
structure Joins (xs : List Expr) (wider? : Option ScalarType) (y : Expr) : Prop where
  nodeCount : y.nodeCount = 1 + (xs.map Expr.nodeCount).sum
  depth : y.depth = 1 + (xs.map Expr.depth).foldr max 0
  operands : List.Forall₂ (Kept wider?) xs y.operands

/-! ## Operands -/

theorem check_eq_error {x : Expr} {e : ExprError} :
    x.check = .error e ↔ ∃ v err, x = const v ∧ v.literalError? = some err ∧ e = .literal err := by
  cases x with
  | const v => cases h : v.literalError? <;> simp [check, h, eq_comm]
  | _ => simp [check]

end Expr

/-! ## Operators -/

theorem UnaryOp.admits_iff {op : UnaryOp} {t : ScalarType} :
    op.Admits t ↔ ∃ u, op.resultType? t = some u := by
  cases op <;> simp [Admits, resultType?]

theorem ScalarType.isNumeric_iff_widest? {a b : ScalarType} :
    (a.isNumeric = true ∧ b.isNumeric = true) ↔ ∃ t, a.widest? b = some t := by
  rw [← Option.isSome_iff_exists, widest?_isSome, Bool.and_eq_true]

theorem BinaryOp.admits_iff {op : BinaryOp} {l r : ScalarType} :
    op.Admits l r ↔
      (op = .arithmetic .add ∧ l = .text ∧ r = .text) ∨ ∃ t, op.resultType? l r = some t := by
  cases op with
  | logical op => simp [Admits, resultType?]
  | comparison op => simp [Admits, resultType?, Expr.accepts_iff]
  | arithmetic op =>
    cases op with
    | add => simp [Admits, resultType?, ScalarType.isNumeric_iff_widest?, or_comm]
    | _ => simp [Admits, resultType?, ScalarType.isNumeric_iff_widest?]

theorem UnaryOp.apply_eq_error {op : UnaryOp} {x : Expr} {e : ExprError} :
    op.apply x = .error e ↔ op.Refuses x e := by
  simp only [apply, check_bind_eq_error, Expr.check_eq_error, Expr.check_eq_ok]
  constructor
  · rintro (⟨v, err, hx, h, rfl⟩ | ⟨hx, h⟩)
    · exact .literal hx h
    · cases ht : op.resultType? x.type with
      | some t =>
        rw [ht] at h
        cases h
      | none =>
        rw [ht] at h
        cases h
        exact .operand hx (by simp [admits_iff, ht])
  · intro h
    cases h with
    | literal hx h => exact .inl ⟨_, _, hx, h, rfl⟩
    | operand hx h =>
      have hnone : op.resultType? x.type = none := by simpa [admits_iff, Option.eq_none_iff_forall_ne_some] using h
      rw [hnone]
      exact .inr ⟨hx, rfl⟩

theorem BinaryOp.apply_of_not_admits {op : BinaryOp} {l r : Expr} (hl : l.Encodable) (hr : r.Encodable)
    (h : ¬op.Admits l.type r.type) : op.apply l r = .error (.mismatch op l.type r.type) := by
  rw [admits_iff, not_or, not_exists, ← Option.eq_none_iff_forall_ne_some] at h
  rw [apply, Expr.check_eq_ok.2 hl, Expr.check_eq_ok.2 hr, ok_bind, ok_bind, if_neg h.1, h.2]

theorem BinaryOp.exists_apply_iff {op : BinaryOp} {l r : Expr} :
    (∃ y, op.apply l r = .ok y) ↔ l.Encodable ∧ r.Encodable ∧ op.Admits l.type r.type := by
  simp only [apply_eq_ok, exists_and_left, admits_iff]
  refine and_congr_right fun _ => and_congr_right fun _ => ?_
  split
  · rename_i htexts
    exact iff_of_true ⟨_, rfl⟩ (.inl htexts)
  · rename_i htexts
    simp [htexts]

theorem BinaryOp.apply_eq_error {op : BinaryOp} {l r : Expr} {e : ExprError} :
    op.apply l r = .error e ↔ op.Refuses l r e := by
  constructor
  · intro h
    rcases check_bind_eq_error.1 h with hl | ⟨hl, hrest⟩
    · obtain ⟨v, err, hv, hlit, rfl⟩ := Expr.check_eq_error.1 hl
      exact .left hv hlit
    rcases check_bind_eq_error.1 hrest with hr | ⟨hr, -⟩
    · obtain ⟨v, err, hv, hlit, rfl⟩ := Expr.check_eq_error.1 hr
      exact .right (Expr.check_eq_ok.1 hl) hv hlit
    rw [Expr.check_eq_ok] at hl hr
    by_cases ha : op.Admits l.type r.type
    · obtain ⟨y, hy⟩ := exists_apply_iff.2 ⟨hl, hr, ha⟩
      rw [hy] at h
      cases h
    · rw [apply_of_not_admits hl hr ha] at h
      cases h
      exact .mismatch hl hr ha
  · intro h
    cases h with
    | left hl h => exact check_bind_eq_error.2 (.inl (Expr.check_eq_error.2 ⟨_, _, hl, h, rfl⟩))
    | right hl hr h =>
      refine check_bind_eq_error.2 (.inr ⟨Expr.check_eq_ok.2 hl, ?_⟩)
      exact check_bind_eq_error.2 (.inl (Expr.check_eq_error.2 ⟨_, _, hr, h, rfl⟩))
    | mismatch hl hr h => exact apply_of_not_admits hl hr h

/-! ## Functions -/

namespace Function

/-- What is wrong with an argument at a position before a parameter. -/
def argumentFault? (f : Function) (i : Nat) (x : Expr) (p : ParamKind) : Option ExprError :=
  match x.check with
  | .error e => some e
  | .ok () => if p.accepts x.type then none else some (.argument f i p x.type)

theorem argumentFault?_eq_none {f : Function} {i : Nat} {x : Expr} {p : ParamKind} :
    f.argumentFault? i x p = none ↔ x.Encodable ∧ p.accepts x.type = true := by
  rw [argumentFault?, ← Expr.check_eq_ok]
  cases x.check with
  | error e => simp
  | ok u => simp

theorem checkArguments_cons {f : Function} {i : Nat} {x : Expr} {xs : List Expr} {p : ParamKind}
    {ps : List ParamKind} :
    f.checkArguments i (x :: xs) (p :: ps) =
      (outcome (f.argumentFault? i x p) () >>= fun () => f.checkArguments (i + 1) xs ps) := by
  rw [checkArguments, argumentFault?]
  cases x.check with
  | error e => rfl
  | ok u => by_cases h : p.accepts x.type = true <;> simp [h]

/-- What comes first comes at once, or it comes first among what is left. -/
theorem exists_first_iff {p q : Nat → Prop} :
    (∃ j, p j ∧ ∀ k < j, q k) ↔ p 0 ∨ (q 0 ∧ ∃ j, p (j + 1) ∧ ∀ k < j, q (k + 1)) := by
  constructor
  · rintro ⟨j, hp, hq⟩
    cases j with
    | zero => exact .inl hp
    | succ j => exact .inr ⟨hq 0 (Nat.succ_pos j), j, hp, fun k hk => hq (k + 1) (Nat.succ_lt_succ hk)⟩
  · rintro (hp | ⟨hzero, j, hp, hq⟩)
    · exact ⟨0, hp, by simp⟩
    · refine ⟨j + 1, hp, ?_⟩
      intro k hk
      cases k with
      | zero => exact hzero
      | succ k => exact hq k (Nat.lt_of_succ_lt_succ hk)

/-- Arguments are judged in order, and the first that has a fault decides. -/
theorem checkArguments_eq_error {f : Function} {i : Nat} {args : List Expr} {params : List ParamKind}
    {e : ExprError} :
    f.checkArguments i args params = .error e ↔
      ∃ j, (∃ x p, args[j]? = some x ∧ params[j]? = some p ∧ f.argumentFault? (i + j) x p = some e) ∧
        ∀ k < j, ∀ x p, args[k]? = some x → params[k]? = some p → f.argumentFault? (i + k) x p = none := by
  induction args generalizing i params with
  | nil => simp [checkArguments]
  | cons x xs ih =>
    cases params with
    | nil => simp [checkArguments]
    | cons p ps =>
      rw [checkArguments_cons, exists_first_iff]
      cases hfault : f.argumentFault? i x p with
      | some e' => simp [hfault]
      | none =>
        -- The arguments left are judged at positions one higher.
        have hnext (n : Nat) : i + 1 + n = i + (n + 1) := by omega
        rw [outcome_none, ok_bind, ih]
        simp [hfault, hnext]

/-- With a parameter for every argument, the faults are the refusals. -/
theorem refusesAt_iff {f : Function} {args : List Expr} (hmax : args.length ≤ f.signature.params.length)
    {i : Nat} {e : ExprError} :
    f.RefusesAt args i e ↔
      ∃ x p, args[i]? = some x ∧ f.signature.params[i]? = some p ∧ f.argumentFault? i x p = some e := by
  constructor
  · intro h
    cases h with
    | @literal v err hx h =>
      obtain ⟨hi, -⟩ := List.getElem?_eq_some_iff.1 hx
      refine ⟨_, f.signature.params[i], hx, List.getElem?_eq_getElem (by omega), ?_⟩
      simp [argumentFault?, Expr.check, h]
    | @kind x p hx hp he h =>
      refine ⟨x, p, hx, hp, ?_⟩
      simp [argumentFault?, Expr.check_eq_ok.2 he, h]
  · rintro ⟨x, p, hx, hp, h⟩
    unfold argumentFault? at h
    split at h
    · rename_i err hcheck
      cases h
      obtain ⟨v, lit, rfl, hlit, rfl⟩ := Expr.check_eq_error.1 hcheck
      exact .literal hx hlit
    · rename_i hcheck
      split at h
      · cases h
      · cases h
        exact .kind hx hp (Expr.check_eq_ok.1 hcheck) ‹_›

theorem not_refusesAt_iff {f : Function} {args : List Expr} (hmax : args.length ≤ f.signature.params.length)
    {i : Nat} :
    (∀ e, ¬f.RefusesAt args i e) ↔
      ∀ x p, args[i]? = some x → f.signature.params[i]? = some p → f.argumentFault? i x p = none := by
  simp only [refusesAt_iff hmax, not_exists, not_and, Option.eq_none_iff_forall_ne_some, ne_eq]
  constructor
  · intro h x p hx hp e
    exact h e x p hx hp
  · intro h e x p hx hp
    exact h x p hx hp e

theorem exists_apply_iff {f : Function} {args : List Expr} :
    (∃ y, f.apply args = .ok y) ↔
      (f.signature.required ≤ args.length ∧ args.length ≤ f.signature.params.length) ∧
        ∀ i e, ¬f.RefusesAt args i e := by
  simp only [apply_eq_ok, exists_and_left, exists_eq, and_true]
  refine and_congr_right fun hlen => ?_
  simp only [not_refusesAt_iff hlen.2, argumentFault?_eq_none, Accepts]
  constructor
  · intro h i x p hx hp
    exact h (x, p) (List.mem_of_getElem? (List.getElem?_zip_eq_some.2 ⟨hx, hp⟩))
  · intro h a ha
    obtain ⟨i, hi⟩ := List.mem_iff_getElem?.1 ha
    obtain ⟨hx, hp⟩ := List.getElem?_zip_eq_some.1 hi
    exact h i a.1 a.2 hx hp

theorem apply_eq_error {f : Function} {args : List Expr} {e : ExprError} :
    f.apply args = .error e ↔ f.Refuses args e := by
  unfold apply
  dsimp only
  split
  · rename_i hlen
    constructor
    · intro h
      cases h
      exact .arity hlen
    · intro h
      cases h with
      | arity => rfl
      | argument hmin hmax => omega
  · rename_i hlen
    have hmax : args.length ≤ f.signature.params.length := by omega
    rw [check_bind_eq_error, checkArguments_eq_error]
    simp only [Nat.zero_add, ← refusesAt_iff hmax, ← not_refusesAt_iff hmax]
    constructor
    · rintro (⟨i, hi, hfirst⟩ | ⟨-, h⟩)
      · exact .argument (by omega) hmax hi hfirst
      · cases h
    · intro h
      cases h with
      | arity h => exact absurd h hlen
      | argument _ _ hi hfirst => exact .inl ⟨_, hi, hfirst⟩

end Function

/-! ## Nodes over operands -/

namespace Expr

theorem nodeCount_eq (x : Expr) : x.nodeCount = 1 + (x.operands.map nodeCount).sum := by
  have hsum (xs : List Expr) : nodeCounts xs = (xs.map nodeCount).sum := by
    induction xs with
    | nil => rfl
    | cons x xs ih => rw [nodeCounts, ih, List.map_cons, List.sum_cons]
  cases x <;> simp [nodeCount, operands, hsum]

theorem depths_eq (xs : List Expr) : depths xs = (xs.map depth).foldr max 0 := by
  induction xs with
  | nil => rfl
  | cons x xs ih => rw [depths, ih, List.map_cons, List.foldr_cons]

theorem Kept.size {wider? : Option ScalarType} {x z : Expr} (h : Kept wider? x z) :
    z.nodeCount = x.nodeCount ∧ z.depth = x.depth := by
  cases h <;> exact ⟨rfl, rfl⟩

theorem map_eq_of_kept {α : Type} {wider? : Option ScalarType} {xs ys : List Expr}
    (h : List.Forall₂ (Kept wider?) xs ys) {g : Expr → α} (hg : ∀ x z, Kept wider? x z → g z = g x) :
    ys.map g = xs.map g := by
  induction h with
  | nil => rfl
  | cons hk _ ih => rw [List.map_cons, List.map_cons, hg _ _ hk, ih]

/-- Operands take as much room under the node as they did before. -/
theorem joins_of_kept {xs : List Expr} {wider? : Option ScalarType} {y : Expr}
    (h : List.Forall₂ (Kept wider?) xs y.operands) : Joins xs wider? y where
  nodeCount := by rw [nodeCount_eq, map_eq_of_kept h fun x z hk => hk.size.1]
  depth := by rw [depth_eq, depths_eq, map_eq_of_kept h fun x z hk => hk.size.2]
  operands := h

theorem kept_widen {x : Expr} {t : ScalarType} : Kept (some t) x (x.widen t) := by
  cases x with
  | const v =>
    by_cases hv : v.type = t
    · have hsame : ∀ w, const v = const w → w.type = t := by
        rintro w ⟨⟩
        exact hv
      rw [widen_of_type hsame]
      refine .same ?_
      intro w u hw hu
      cases hu
      exact hsame w hw
    · exact .widened rfl hv
  | _ => exact .same (by simp)

theorem forall₂_kept_none {xs : List Expr} : List.Forall₂ (Kept none) xs xs :=
  List.forall₂_same.2 fun x _ => .same (by simp)

/-- The two operands of a node, aligned. -/
theorem kept_aligned (l r : Expr) :
    List.Forall₂ (Kept (l.type.widest? r.type)) [l, r] [(l.alignNumbers r).1, (l.alignNumbers r).2] := by
  rcases alignNumbers_cases l r with ⟨t, ht, ha⟩ | ⟨ht, ha⟩ <;> rw [ht, ha]
  · exact .cons kept_widen (.cons kept_widen .nil)
  · exact forall₂_kept_none

theorem joins_of_binary_apply {op : BinaryOp} {l r y : Expr} (h : op.apply l r = .ok y) :
    Joins [l, r] (l.type.widest? r.type) y := by
  obtain ⟨-, -, h⟩ := BinaryOp.apply_eq_ok.1 h
  split at h
  · rename_i htexts
    subst h
    have hnone : l.type.widest? r.type = none := by rw [htexts.2.1, htexts.2.2]; rfl
    rw [hnone]
    exact joins_of_kept forall₂_kept_none
  · obtain ⟨t, -, rfl⟩ := h
    exact joins_of_kept (kept_aligned l r)

/-- Operators and functions refuse their operands by the rules and in their order, and accept all others. What
they accept stands unchanged under one new node, but for constants that are converted to the wider of two
numeric types. Two texts are added by a call. -/
theorem refused_or_joined :
    (∀ (op : UnaryOp) (x : Expr),
      (∀ e, op.apply x = .error e ↔ op.Refuses x e) ∧
        ((∃ y, op.apply x = .ok y) ↔ x.Encodable ∧ op.Admits x.type) ∧
          ∀ y, op.apply x = .ok y → Joins [x] none y ∧ ∃ t, y = .unary op t x) ∧
    (∀ (op : BinaryOp) (l r : Expr),
      (∀ e, op.apply l r = .error e ↔ op.Refuses l r e) ∧
        ((∃ y, op.apply l r = .ok y) ↔ l.Encodable ∧ r.Encodable ∧ op.Admits l.type r.type) ∧
          ∀ y, op.apply l r = .ok y → Joins [l, r] (l.type.widest? r.type) y ∧
            if op = .arithmetic .add ∧ l.type = .text ∧ r.type = .text then y = .call .concat .text [l, r]
            else ∃ t m s, y = .binary op t m s) ∧
    ∀ (f : Function) (args : List Expr),
      (∀ e, f.apply args = .error e ↔ f.Refuses args e) ∧
        ((∃ y, f.apply args = .ok y) ↔
          (f.signature.required ≤ args.length ∧ args.length ≤ f.signature.params.length) ∧
            ∀ i e, ¬f.RefusesAt args i e) ∧
          ∀ y, f.apply args = .ok y → Joins args none y ∧ ∃ t, y = .call f t args := by
  refine ⟨?_, ?_, ?_⟩
  · intro op x
    refine ⟨fun e => UnaryOp.apply_eq_error, ?_, ?_⟩
    · simp [UnaryOp.apply_eq_ok, UnaryOp.admits_iff]
    · intro y h
      obtain ⟨-, t, -, rfl⟩ := UnaryOp.apply_eq_ok.1 h
      exact ⟨joins_of_kept forall₂_kept_none, t, rfl⟩
  · intro op l r
    refine ⟨fun e => BinaryOp.apply_eq_error, BinaryOp.exists_apply_iff, ?_⟩
    · intro y h
      refine ⟨joins_of_binary_apply h, ?_⟩
      obtain ⟨-, -, h⟩ := BinaryOp.apply_eq_ok.1 h
      split at h
      · rename_i htexts
        rwa [if_pos htexts]
      · rename_i htexts
        obtain ⟨t, -, rfl⟩ := h
        rw [if_neg htexts]
        exact ⟨t, _, _, rfl⟩
  · intro f args
    refine ⟨fun e => Function.apply_eq_error, Function.exists_apply_iff, ?_⟩
    · intro y h
      obtain ⟨-, -, rfl⟩ := Function.apply_eq_ok.1 h
      exact ⟨joins_of_kept forall₂_kept_none, _, rfl⟩

end Expr

end TableQuery
