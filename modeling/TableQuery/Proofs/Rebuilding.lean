import TableQuery.Proofs.Building
/-!
# Building once more

A built expression, taken apart and put together again by the same operators and functions, comes out as it
was. Constants that took a wider type keep it, texts that were joined stay a call, and nothing is refused that
was accepted before. No other expressions are like that.
-/

namespace TableQuery

namespace Expr

mutual
/-- The expression put together again, from its leaves up. -/
def rebuild : Expr → Except ExprError Expr
  | const v => .ok (const v)
  | field name t => .ok (field name t)
  | unary op _ x => do op.apply (← rebuild x)
  | binary op _ l r => do
    let l ← rebuild l
    let r ← rebuild r
    op.apply l r
  | call f _ args => do f.apply (← rebuildAll args)

/-- Arguments put together again, one by one. -/
def rebuildAll : List Expr → Except ExprError (List Expr)
  | [] => .ok []
  | x :: xs => do
    let y ← rebuild x
    let ys ← rebuildAll xs
    return y :: ys
end

/-! ## Operands that fit already -/

theorem Sound.encodable_operand {x z : Expr} (h : x.Sound) (hz : z ∈ x.operands) : z.Encodable := by
  rintro v rfl
  exact h.encodable v hz

/-- What has been aligned is not aligned any further. -/
theorem alignNumbers_of_aligned {op : BinaryOp} {t : ScalarType} {l r : Expr}
    (h : (binary op t l r).Aligned) : l.alignNumbers r = (l, r) := by
  rcases alignNumbers_cases l r with ⟨u, hu, ha⟩ | ⟨-, ha⟩
  · obtain ⟨hl, hr⟩ := h u hu
    rw [ha, widen_of_type hl, widen_of_type hr]
  · exact ha

end Expr

theorem UnaryOp.resultType?_of_wellTyped {op : UnaryOp} {t : ScalarType} {x : Expr}
    (h : (Expr.unary op t x).WellTyped) : op.resultType? x.type = some t := by
  cases op with
  | not =>
    obtain ⟨hx, rfl⟩ := h
    exact if_pos hx
  | negate =>
    obtain ⟨hx, rfl⟩ := h
    exact if_pos hx

theorem BinaryOp.resultType?_of_wellTyped {op : BinaryOp} {t : ScalarType} {l r : Expr}
    (h : (Expr.binary op t l r).WellTyped) : op.resultType? l.type r.type = some t := by
  cases op with
  | logical op =>
    obtain ⟨hl, hr, rfl⟩ := h
    exact if_pos ⟨hl, hr⟩
  | comparison op =>
    obtain ⟨hlr, rfl⟩ := h
    exact if_pos (Expr.accepts_iff.2 hlr)
  | arithmetic op => exact h.2.2

/-- Two texts never stand under an operator of arithmetic. -/
theorem BinaryOp.not_texts_of_wellTyped {op : BinaryOp} {t : ScalarType} {l r : Expr}
    (h : (Expr.binary op t l r).WellTyped) :
    ¬(op = .arithmetic .add ∧ l.type = .text ∧ r.type = .text) := by
  rintro ⟨rfl, htexts⟩
  exact h.2.1 htexts

/-! ## Nodes built again -/

theorem UnaryOp.apply_of_sound {op : UnaryOp} {t : ScalarType} {x : Expr}
    (h : (Expr.unary op t x).Sound) : op.apply x = .ok (.unary op t x) :=
  apply_eq_ok.2 ⟨h.encodable_operand (by simp [Expr.operands]), t, resultType?_of_wellTyped h.wellTyped, rfl⟩

theorem BinaryOp.apply_of_sound {op : BinaryOp} {t : ScalarType} {l r : Expr}
    (h : (Expr.binary op t l r).Sound) : op.apply l r = .ok (.binary op t l r) := by
  refine apply_eq_ok.2
    ⟨h.encodable_operand (by simp [Expr.operands]), h.encodable_operand (by simp [Expr.operands]), ?_⟩
  rw [if_neg (not_texts_of_wellTyped h.wellTyped), Expr.alignNumbers_of_aligned h.aligned]
  exact ⟨t, resultType?_of_wellTyped h.wellTyped, rfl⟩

theorem Function.apply_of_sound {f : Function} {t : ScalarType} {args : List Expr}
    (h : (Expr.call f t args).Sound) : f.apply args = .ok (.call f t args) := by
  obtain ⟨hlen, haccepts, rfl⟩ := h.wellTyped
  refine apply_eq_ok.2 ⟨hlen, ?_, rfl⟩
  intro a ha
  exact ⟨h.encodable_operand (List.of_mem_zip ha).1, haccepts a ha⟩

namespace Expr

theorem rebuildAll_of_forall {xs : List Expr} (h : ∀ x ∈ xs, x.rebuild = .ok x) :
    rebuildAll xs = .ok xs := by
  induction xs with
  | nil => rfl
  | cons x xs ih =>
    obtain ⟨hx, hxs⟩ := List.forall_mem_cons.1 h
    rw [rebuildAll, hx, ih hxs]
    rfl

/-- Where every node is sound, every application gives the node it is made for. -/
theorem rebuild_of_every_sound {x : Expr} (h : x.Every Sound) : x.rebuild = .ok x := by
  induction x with
  | const v => rfl
  | field name t => rfl
  | unary op t x ih =>
    obtain ⟨hnode, hx⟩ := every_unary.1 h
    rw [rebuild, ih hx]
    exact UnaryOp.apply_of_sound hnode
  | binary op t l r ihl ihr =>
    obtain ⟨hnode, hl, hr⟩ := every_binary.1 h
    rw [rebuild, ihl hl, ihr hr]
    exact BinaryOp.apply_of_sound hnode
  | call f t args ih =>
    obtain ⟨hnode, hargs⟩ := every_call.1 h
    rw [rebuild, rebuildAll_of_forall fun x hx => ih x hx (hargs x hx)]
    exact Function.apply_of_sound hnode

/-! ## Only what can be built -/

theorem built_of_rebuildAll {xs ys : List Expr} (hxs : ∀ x ∈ xs, ∀ y, x.rebuild = .ok y → y.Built)
    (h : rebuildAll xs = .ok ys) : ∀ y ∈ ys, y.Built := by
  induction xs generalizing ys with
  | nil =>
    cases h
    simp
  | cons x xs ih =>
    obtain ⟨hx, hxs⟩ := List.forall_mem_cons.1 hxs
    rw [rebuildAll] at h
    obtain ⟨y, hy, h⟩ := bind_eq_ok.1 h
    obtain ⟨zs, hzs, h⟩ := bind_eq_ok.1 h
    cases h
    exact List.forall_mem_cons.2 ⟨hx y hy, ih hxs hzs⟩

/-- Whatever is put together is built. -/
theorem built_of_rebuild {x y : Expr} (h : x.rebuild = .ok y) : y.Built := by
  induction x generalizing y with
  | const v =>
    cases h
    exact .const v
  | field name t =>
    cases h
    exact .field name t
  | unary op t x ih =>
    rw [rebuild] at h
    obtain ⟨z, hz, h⟩ := bind_eq_ok.1 h
    exact .unary (ih hz) h
  | binary op t l r ihl ihr =>
    rw [rebuild] at h
    obtain ⟨m, hm, h⟩ := bind_eq_ok.1 h
    obtain ⟨s, hs, h⟩ := bind_eq_ok.1 h
    exact .binary (ihl hm) (ihr hs) h
  | call f t args ih =>
    rw [rebuild] at h
    obtain ⟨zs, hzs, h⟩ := bind_eq_ok.1 h
    exact .call (built_of_rebuildAll (fun x hx y => ih x hx) hzs) h

/-- The expressions that can be built are those of which every node, put together again from its leaves up,
comes out as it was. -/
theorem built_iff_rebuild (x : Expr) : x.Built ↔ ∀ y : Expr, y.Within x → y.rebuild = .ok y := by
  constructor
  · intro h y hy
    have hsound : y.Every Sound := by
      intro z hz
      exact h.every_sound z (hz.trans hy)
    exact rebuild_of_every_sound hsound
  · intro h
    exact built_of_rebuild (h x (.root x))

/-- A tree with a bare integer beside a float is none that can be built: it comes out with two floats. -/
example :
    rebuild (binary (.comparison .lt) .bool (field "price" .float32) (const (.int 3))) =
      .ok (binary (.comparison .lt) .bool (field "price" .float32) (const (.float32 (.ofInt 3)))) := rfl

end Expr

end TableQuery
