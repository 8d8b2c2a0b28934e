import TableQuery.Expr.Basic
/-!
# The nodes of an expression

Induction over expressions, whose arguments are a list, and the nodes that stand in an expression.
-/

namespace TableQuery.Expr

/-- Induction over an expression. Of a call, every argument may be assumed. -/
@[elab_as_elim, induction_eliminator]
theorem induct {motive : Expr → Prop} (const : ∀ v, motive (.const v))
    (field : ∀ name type, motive (.field name type))
    (unary : ∀ op type x, motive x → motive (.unary op type x))
    (binary : ∀ op type l r, motive l → motive r → motive (.binary op type l r))
    (call : ∀ f type args, (∀ x ∈ args, motive x) → motive (.call f type args)) (x : Expr) :
    motive x :=
  @Expr.rec motive (fun xs => ∀ x ∈ xs, motive x) const field unary binary call (by simp)
    (fun _ _ hx hxs => List.forall_mem_cons.2 ⟨hx, hxs⟩) x

/-- The expressions a node is built from. -/
def operands : Expr → List Expr
  | const _ => []
  | field _ _ => []
  | unary _ _ x => [x]
  | binary _ _ l r => [l, r]
  | call _ _ args => args

/-- Induction that treats every kind of node alike: all operands may be assumed. -/
theorem operandInduct {motive : Expr → Prop} (h : ∀ x, (∀ z ∈ x.operands, motive z) → motive x)
    (x : Expr) : motive x := by
  induction x with
  | const v => exact h _ (by simp [operands])
  | field name type => exact h _ (by simp [operands])
  | unary op type x ih => exact h _ (by simpa [operands] using ih)
  | binary op type l r ihl ihr => exact h _ (by simpa [operands] using ⟨ihl, ihr⟩)
  | call f type args ih => exact h _ ih

/-- `Within y x`: the node `y` stands in `x`, as its root or below. -/
inductive Within : Expr → Expr → Prop
  | root (x : Expr) : Within x x
  | under {y z x : Expr} (hz : z ∈ x.operands) (hy : Within y z) : Within y x

theorem within_iff {x y : Expr} : y.Within x ↔ y = x ∨ ∃ z ∈ x.operands, y.Within z := by
  constructor
  · intro h
    cases h with
    | root => exact .inl rfl
    | under hz hy => exact .inr ⟨_, hz, hy⟩
  · rintro (rfl | ⟨z, hz, hy⟩)
    · exact .root y
    · exact .under hz hy

theorem Within.trans {x y z : Expr} (hz : z.Within y) (hy : y.Within x) : z.Within x := by
  induction hy with
  | root => exact hz
  | under hw _ ih => exact .under hw ih

/-- Below the root, a node is an operand of another. -/
theorem eq_or_mem_operands_of_within {x y : Expr} (h : y.Within x) :
    y = x ∨ ∃ z : Expr, z.Within x ∧ y ∈ z.operands := by
  induction h with
  | root => exact .inl rfl
  | under hz _ ih =>
    rcases ih with rfl | ⟨w, hw, hy⟩
    · exact .inr ⟨_, .root _, hz⟩
    · exact .inr ⟨w, .under hz hw, hy⟩

/-! ## What holds of every node -/

/-- `p` holds of `x` and of all below it. -/
def Every (p : Expr → Prop) (x : Expr) : Prop := ∀ y, y.Within x → p y

section Every
variable {p q : Expr → Prop}

theorem every_iff {x : Expr} : Every p x ↔ p x ∧ ∀ z ∈ x.operands, Every p z := by
  constructor
  · intro h
    exact ⟨h x (.root x), fun z hz y hy => h y (.under hz hy)⟩
  · rintro ⟨hx, hz⟩ y hy
    rcases within_iff.1 hy with rfl | ⟨z, hzx, hyz⟩
    · exact hx
    · exact hz z hzx y hyz

theorem Every.here {x : Expr} (h : Every p x) : p x := h x (.root x)

theorem Every.operand {x z : Expr} (h : Every p x) (hz : z ∈ x.operands) : Every p z :=
  (every_iff.1 h).2 z hz

theorem Every.mono (hpq : ∀ x, p x → q x) {x : Expr} (h : Every p x) : Every q x :=
  fun y hy => hpq y (h y hy)

@[simp]
theorem every_const {v : Value} : Every p (const v) ↔ p (const v) := by
  rw [every_iff]
  simp [operands]

@[simp]
theorem every_field {name : String} {type : ScalarType} :
    Every p (field name type) ↔ p (field name type) := by
  rw [every_iff]
  simp [operands]

theorem every_unary {op : UnaryOp} {type : ScalarType} {x : Expr} :
    Every p (unary op type x) ↔ p (unary op type x) ∧ Every p x := by
  rw [every_iff]
  simp [operands]

theorem every_binary {op : BinaryOp} {type : ScalarType} {l r : Expr} :
    Every p (binary op type l r) ↔ p (binary op type l r) ∧ Every p l ∧ Every p r := by
  rw [every_iff]
  simp [operands]

theorem every_call {f : Function} {type : ScalarType} {args : List Expr} :
    Every p (call f type args) ↔ p (call f type args) ∧ ∀ x ∈ args, Every p x := by
  rw [every_iff]
  simp [operands]

end Every

/-! ## Arguments one by one -/

theorem depth_eq (x : Expr) : x.depth = 1 + depths x.operands := by
  cases x <;> simp [depth, depths, operands]

theorem depth_pos (x : Expr) : 0 < x.depth := by
  rw [depth_eq]
  omega

theorem depths_le_iff {xs : List Expr} {n : Nat} : depths xs ≤ n ↔ ∀ x ∈ xs, x.depth ≤ n := by
  induction xs with
  | nil => simp [depths]
  | cons x xs ih => rw [depths, Nat.max_le, ih, List.forall_mem_cons]

end TableQuery.Expr
