import TableQuery.Expr.Build
import TableQuery.Proofs.Nodes
import TableQuery.Proofs.Outcomes
import TableQuery.Proofs.Widening
/-!
# What can be built

`Expr.Built` holds of the expressions that operators and functions give, in any order. Each
application looks no further than its operands, so what holds of every node of a built expression is
proved once for each kind of application, and then by induction on how the expression was built.
-/

namespace TableQuery

namespace Expr

/-- Expressions that come from leaves by successful applications. -/
inductive Built : Expr → Prop
  | const (v : Value) : Built (.const v)
  | field (name : String) (type : ScalarType) : Built (.field name type)
  | unary {op : UnaryOp} {x y : Expr} (hx : Built x) (h : op.apply x = .ok y) : Built y
  | binary {op : BinaryOp} {l r y : Expr} (hl : Built l) (hr : Built r) (h : op.apply l r = .ok y) :
    Built y
  | call {f : Function} {args : List Expr} {y : Expr} (hargs : ∀ x ∈ args, Built x)
    (h : f.apply args = .ok y) : Built y

/-- If the expression is a constant, it has a literal. -/
def Encodable (x : Expr) : Prop := ∀ v, x = const v → v.literalError? = none

theorem check_eq_ok {x : Expr} : x.check = .ok () ↔ x.Encodable := by
  cases x with
  | const v => cases h : v.literalError? <;> simp [check, Encodable, h]
  | _ => simp [check, Encodable]

end Expr

/-! ## Successful applications -/

theorem UnaryOp.apply_eq_ok {op : UnaryOp} {x y : Expr} :
    op.apply x = .ok y ↔ x.Encodable ∧ ∃ t, op.resultType? x.type = some t ∧ y = .unary op t x := by
  simp only [UnaryOp.apply, check_bind_eq_ok, Expr.check_eq_ok]
  cases op.resultType? x.type <;> simp [pure, Except.pure, eq_comm]

namespace Function

/-- The arguments that stand before a parameter have literals and the types it accepts. -/
def Accepts (params : List ParamKind) (args : List Expr) : Prop :=
  ∀ a ∈ args.zip params, a.1.Encodable ∧ a.2.accepts a.1.type = true

theorem checkArguments_eq_ok {f : Function} {i : Nat} {args : List Expr} {params : List ParamKind} :
    f.checkArguments i args params = .ok () ↔ Accepts params args := by
  induction args generalizing i params with
  | nil => simp [checkArguments, Accepts]
  | cons x xs ih =>
    cases params with
    | nil => simp [checkArguments, Accepts]
    | cons p ps =>
      simp only [checkArguments, check_bind_eq_ok, Expr.check_eq_ok, Accepts, List.zip_cons_cons,
        List.forall_mem_cons, and_assoc]
      cases p.accepts x.type
      · simp
      · simp only [if_true, true_and, ih, Accepts]

theorem apply_eq_ok {f : Function} {args : List Expr} {y : Expr} :
    f.apply args = .ok y ↔
      (f.signature.required ≤ args.length ∧ args.length ≤ f.signature.params.length) ∧
        Accepts f.signature.params args ∧
          y = .call f (f.signature.returns.resolve (args.head?.elim .null Expr.type)) args := by
  unfold apply
  dsimp only
  split
  · rename_i h
    simp only [reduceCtorEq, false_iff]
    omega
  · rename_i h
    simp only [check_bind_eq_ok, checkArguments_eq_ok, pure_eq_ok_iff]
    constructor
    · rintro ⟨ha, hy⟩
      exact ⟨by omega, ha, hy.symm⟩
    · rintro ⟨-, ha, hy⟩
      exact ⟨ha, hy.symm⟩

end Function

/-- Two texts are joined by a call. Other operands stand aligned under a node. -/
theorem BinaryOp.apply_eq_ok {op : BinaryOp} {l r y : Expr} :
    op.apply l r = .ok y ↔ l.Encodable ∧ r.Encodable ∧
      if op = .arithmetic .add ∧ l.type = .text ∧ r.type = .text then
        y = .call .concat .text [l, r]
      else
        ∃ t, op.resultType? l.type r.type = some t ∧
          y = .binary op t (l.alignNumbers r).1 (l.alignNumbers r).2 := by
  simp only [BinaryOp.apply, check_bind_eq_ok, Expr.check_eq_ok]
  apply and_congr_right
  intro hl
  apply and_congr_right
  intro hr
  split
  · rename_i h
    rw [Function.apply_eq_ok]
    simp [Function.Accepts, Function.signature, ReturnKind.resolve, ParamKind.accepts, hl, hr, h]
  · cases op.resultType? l.type r.type <;> simp [pure, Except.pure, eq_comm]

/-! ## Alignment -/

namespace ScalarType

theorem isNumeric_of_widest? {a b t : ScalarType} (h : a.widest? b = some t) :
    a.isNumeric = true ∧ b.isNumeric = true := by
  have hs := widest?_isSome a b
  rw [h] at hs
  simpa using hs.symm

/-- The wider of two types stays the wider one when either takes its place. -/
theorem widest?_wider {a b t : ScalarType} (h : a.widest? b = some t) :
    a.widest? t = some t ∧ t.widest? b = some t ∧ t.widest? t = some t := by
  cases a <;> cases b <;> cases h <;> decide

end ScalarType

namespace Expr

theorem encodable_widen {x : Expr} (h : x.Encodable) (t : ScalarType) : (x.widen t).Encodable := by
  cases x with
  | const v =>
    intro w hw
    cases hw
    exact Value.literalError?_widen (h v rfl) t
  | _ => exact h

/-- Among numbers, only constants are widened, and they take the wider type. -/
theorem type_widen {x : Expr} {u t : ScalarType} (h : x.type.widest? u = some t) :
    (x.widen t).type = x.type ∨ (x.widen t).type = t := by
  cases x with
  | const v => exact .inr (Value.type_widen h)
  | _ => exact .inl rfl

theorem widen_of_type {x : Expr} {t : ScalarType} (h : ∀ v, x = const v → v.type = t) : x.widen t = x := by
  cases x with
  | const v =>
    obtain rfl := h v rfl
    cases v <;> rfl
  | _ => rfl

theorem type_of_widen_eq_const {x : Expr} {v : Value} {u t : ScalarType}
    (h : x.type.widest? u = some t) (hv : x.widen t = const v) : v.type = t := by
  cases x with
  | const w =>
    cases hv
    exact Value.type_widen h
  | _ => cases hv

theorem widest?_comm_of {a b t : ScalarType} (h : a.widest? b = some t) : b.widest? a = some t := by
  cases a <;> cases b <;> cases h <;> decide

/-- Alignment keeps the wider type. -/
theorem widest?_widen {l r : Expr} {t : ScalarType} (h : l.type.widest? r.type = some t) :
    (l.widen t).type.widest? (r.widen t).type = some t := by
  obtain ⟨hl, hr, ht⟩ := ScalarType.widest?_wider h
  rcases type_widen h with el | el <;> rcases type_widen (widest?_comm_of h) with er | er <;>
    rw [el, er]
  · exact h
  · exact hl
  · exact hr
  · exact ht

/-- Numbers are aligned at the wider type, other operands stay as they are. -/
theorem alignNumbers_cases (l r : Expr) :
    (∃ t, l.type.widest? r.type = some t ∧ l.alignNumbers r = (l.widen t, r.widen t)) ∨
      (l.type.widest? r.type = none ∧ l.alignNumbers r = (l, r)) := by
  unfold alignNumbers
  cases l.type.widest? r.type with
  | none => exact .inr ⟨rfl, rfl⟩
  | some t => exact .inl ⟨t, rfl, rfl⟩

theorem every_widen {p : Expr → Prop} (hconst : ∀ v, p (const v)) {x : Expr} (h : x.Every p) (t : ScalarType) :
    (x.widen t).Every p := by
  cases x with
  | const v => exact every_const.2 (hconst _)
  | _ => exact h

/-- Alignment changes constants only, so it keeps what holds of every constant. -/
theorem every_aligned {p : Expr → Prop} (hconst : ∀ v, p (const v)) {l r : Expr} (hl : l.Every p)
    (hr : r.Every p) : (l.alignNumbers r).1.Every p ∧ (l.alignNumbers r).2.Every p := by
  rcases alignNumbers_cases l r with ⟨t, -, ha⟩ | ⟨-, ha⟩ <;> rw [ha]
  · exact ⟨every_widen hconst hl t, every_widen hconst hr t⟩
  · exact ⟨hl, hr⟩

/-! ## What holds of every node -/

/-- The types whose values `eq` and `ne` compare. -/
def EqualityOperands (l r : ScalarType) : Prop :=
  (l.isNumeric = true ∧ r.isNumeric = true) ∨
    ((l = .null ∧ r ≠ .null) ∨ (l ≠ .null ∧ r = .null)) ∨ (l = r ∧ l ≠ .null)

/-- The types whose values the other comparisons order. -/
def OrderOperands (l r : ScalarType) : Prop :=
  (l.isNumeric = true ∧ r.isNumeric = true) ∨ (l = .text ∧ r = .text) ∨
    (l = .timestamp ∧ r = .timestamp)

/-- The operands of a node have types it can take, and its own type follows from theirs. -/
def WellTyped : Expr → Prop
  | const v => (const v).type = v.type
  | field name t => (field name t).type = t
  | unary .not t x => x.type = .bool ∧ t = .bool
  | unary .negate t x => x.type.isNumeric = true ∧ t = x.type
  | binary (.logical _) t l r => l.type = .bool ∧ r.type = .bool ∧ t = .bool
  | binary (.arithmetic _) t l r =>
    (l.type.isNumeric = true ∧ r.type.isNumeric = true) ∧ ¬(l.type = .text ∧ r.type = .text) ∧
      l.type.widest? r.type = some t
  | binary (.comparison op) t l r =>
    (if op.isEquality then EqualityOperands l.type r.type else OrderOperands l.type r.type) ∧ t = .bool
  | call f t args =>
    (f.signature.required ≤ args.length ∧ args.length ≤ f.signature.params.length) ∧
      (∀ a ∈ args.zip f.signature.params, a.2.accepts a.1.type = true) ∧
        t = f.signature.returns.resolve (args.head?.elim .null Expr.type)

/-- Of two numbers, those that are constants have the wider type. -/
def Aligned : Expr → Prop
  | binary _ _ l r =>
    ∀ t, l.type.widest? r.type = some t →
      (∀ v, l = const v → v.type = t) ∧ (∀ v, r = const v → v.type = t)
  | _ => True

/-- What holds of every node of a built expression. -/
structure Sound (x : Expr) : Prop where
  wellTyped : x.WellTyped
  aligned : x.Aligned
  encodable : ∀ v, const v ∈ x.operands → v.literalError? = none

theorem sound_const (v : Value) : (const v).Sound := ⟨rfl, trivial, by simp [operands]⟩

theorem sound_field (name : String) (type : ScalarType) : (field name type).Sound :=
  ⟨rfl, trivial, by simp [operands]⟩

theorem sound_unary {op : UnaryOp} {t : ScalarType} {x : Expr} (hx : x.Encodable)
    (h : op.resultType? x.type = some t) : (unary op t x).Sound where
  wellTyped := by
    cases op <;>
      simp only [UnaryOp.resultType?, Option.ite_none_right_eq_some, Option.some.injEq] at h <;>
      exact ⟨h.1, h.2.symm⟩
  aligned := trivial
  encodable v hv := hx v (by simpa [operands, eq_comm] using hv)

theorem sound_call {f : Function} {args : List Expr}
    (hlen : f.signature.required ≤ args.length ∧ args.length ≤ f.signature.params.length)
    (hargs : Function.Accepts f.signature.params args) :
    (call f (f.signature.returns.resolve (args.head?.elim .null Expr.type)) args).Sound where
  wellTyped := by
    refine ⟨hlen, ?_, rfl⟩
    intro a ha
    exact (hargs a ha).2
  aligned := trivial
  encodable v hv := by
    -- There is a parameter for every argument, so each of them was checked.
    have hmem : const v ∈ (args.zip f.signature.params).map Prod.fst := by
      rwa [List.map_fst_zip hlen.2]
    obtain ⟨a, ha, hav⟩ := List.mem_map.1 hmem
    exact (hargs a ha).1 v hav

theorem accepts_iff {op : ComparisonOp} {l r : ScalarType} :
    op.accepts l r = true ↔ if op.isEquality then EqualityOperands l r else OrderOperands l r := by
  cases hop : op.isEquality <;> cases l <;> cases r <;>
    simp [ComparisonOp.accepts, hop, EqualityOperands, OrderOperands, ScalarType.isNumeric,
      ScalarType.width?, ScalarType.isOrderable]

theorem wellTyped_aligned {op : BinaryOp} {t : ScalarType} {l r : Expr}
    (h : op.resultType? l.type r.type = some t)
    (htext : ¬(op = .arithmetic .add ∧ l.type = .text ∧ r.type = .text)) :
    (binary op t (l.alignNumbers r).1 (l.alignNumbers r).2).WellTyped := by
  rcases alignNumbers_cases l r with ⟨u, hu, ha⟩ | ⟨hu, ha⟩ <;> rw [ha]
  · -- Two numbers, and still two numbers of the same wider type.
    have hw := widest?_widen hu
    have hnum := ScalarType.isNumeric_of_widest? hw
    cases op with
    | logical op =>
      simp only [BinaryOp.resultType?, Option.ite_none_right_eq_some] at h
      rw [h.1.1, h.1.2] at hu
      cases hu
    | comparison op =>
      simp only [BinaryOp.resultType?, Option.ite_none_right_eq_some, Option.some.injEq] at h
      refine ⟨?_, h.2.symm⟩
      split
      · exact .inl hnum
      · exact .inl hnum
    | arithmetic op =>
      simp only [BinaryOp.resultType?] at h
      rw [hu] at h
      cases h
      refine ⟨hnum, ?_, hw⟩
      rintro ⟨hl, -⟩
      rw [hl] at hnum
      exact absurd hnum.1 (by decide)
  · cases op with
    | logical op =>
      simp only [BinaryOp.resultType?, Option.ite_none_right_eq_some, Option.some.injEq] at h
      exact ⟨h.1.1, h.1.2, h.2.symm⟩
    | comparison op =>
      simp only [BinaryOp.resultType?, Option.ite_none_right_eq_some, Option.some.injEq] at h
      exact ⟨accepts_iff.1 h.1, h.2.symm⟩
    | arithmetic op =>
      simp only [BinaryOp.resultType?] at h
      rw [hu] at h
      cases h

theorem sound_aligned {op : BinaryOp} {t : ScalarType} {l r : Expr} (hl : l.Encodable)
    (hr : r.Encodable) (h : op.resultType? l.type r.type = some t)
    (htext : ¬(op = .arithmetic .add ∧ l.type = .text ∧ r.type = .text)) :
    (binary op t (l.alignNumbers r).1 (l.alignNumbers r).2).Sound where
  wellTyped := wellTyped_aligned h htext
  aligned := by
    intro u hu
    rcases alignNumbers_cases l r with ⟨w, hw, ha⟩ | ⟨hw, ha⟩ <;> rw [ha] at hu ⊢
    · rw [widest?_widen hw] at hu
      cases hu
      constructor
      · intro v hv
        exact type_of_widen_eq_const hw hv
      · intro v hv
        exact type_of_widen_eq_const (widest?_comm_of hw) hv
    · rw [hw] at hu
      cases hu
  encodable v hv := by
    simp only [operands, List.mem_cons, List.not_mem_nil, or_false] at hv
    rcases alignNumbers_cases l r with ⟨w, -, ha⟩ | ⟨-, ha⟩ <;> rw [ha] at hv
    · rcases hv with hv | hv
      · exact encodable_widen hl w v hv.symm
      · exact encodable_widen hr w v hv.symm
    · rcases hv with hv | hv
      · exact hl v hv.symm
      · exact hr v hv.symm

/-- Every application keeps all nodes sound. -/
theorem Built.every_sound {x : Expr} (h : x.Built) : x.Every Sound := by
  induction h with
  | const v => exact every_const.2 (sound_const v)
  | field name type => exact every_field.2 (sound_field name type)
  | unary _ h ih =>
    obtain ⟨hx, t, ht, rfl⟩ := UnaryOp.apply_eq_ok.1 h
    exact every_unary.2 ⟨sound_unary hx ht, ih⟩
  | @binary op l r y _ _ h ihl ihr =>
    obtain ⟨hl, hr, h⟩ := BinaryOp.apply_eq_ok.1 h
    split at h
    · rename_i htext
      subst h
      refine every_call.2 ⟨sound_call (f := .concat) ⟨Nat.le_refl 2, Nat.le_refl 2⟩ ?_, by simp [ihl, ihr]⟩
      simp [Function.Accepts, Function.signature, ParamKind.accepts, hl, hr, htext]
    · rename_i htext
      obtain ⟨t, ht, rfl⟩ := h
      exact every_binary.2 ⟨sound_aligned hl hr ht htext, every_aligned sound_const ihl ihr⟩
  | call _ h ih =>
    obtain ⟨hlen, hargs, rfl⟩ := Function.apply_eq_ok.1 h
    exact every_call.2 ⟨sound_call hlen hargs, ih⟩

/-- Every node of a built expression is typed by the rule of its operator or function, constants among
numbers have the wider type, and the constants below the root have literals. -/
theorem nodes_of_built {x : Expr} (h : x.Built) :
    (∀ y : Expr, y.Within x → y.WellTyped) ∧ (∀ y : Expr, y.Within x → y.Aligned) ∧
      ∀ y : Expr, y.Within x → ∀ v, const v ∈ y.operands → v.literalError? = none := by
  have hsound := h.every_sound
  refine ⟨?_, ?_, ?_⟩
  · intro y hy
    exact (hsound y hy).wellTyped
  · intro y hy
    exact (hsound y hy).aligned
  · intro y hy
    exact (hsound y hy).encodable

/-- `price + 3`, where the integer has become a float. -/
theorem nodes_of_built_sum :
    (binary (.arithmetic .add) .float32 (field "price" .float32) (const (.float32 (.ofInt 3)))).Built ∧
      (binary (.arithmetic .add) .float32 (field "price" .float32)
        (const (.float32 (.ofInt 3)))).WellTyped ∧
      Value.literalError? (.float32 (.ofInt 3)) = none := by
  have hb : (binary (.arithmetic .add) .float32 (field "price" .float32)
      (const (.float32 (.ofInt 3)))).Built :=
    @Built.binary (.arithmetic .add) _ _ _ (.field "price" .float32) (.const (.int 3)) rfl
  obtain ⟨hw, -, he⟩ := nodes_of_built hb
  exact ⟨hb, hw _ (.root _), he _ (.root _) _ (by simp [operands])⟩

end Expr

end TableQuery
