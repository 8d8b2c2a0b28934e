import TableQuery.Filter
import TableQuery.Proofs.Nodes
import TableQuery.Proofs.Outcomes
/-!
# What a filter is written as

Writing goes through the nodes in reading order and stops at the first one that is too deep or wrong in
itself (`fault?`). Where there is none, the text of an expression depends on nothing around it: what
was written before stays in front of it, and its depth does not show (`write_eq`).
-/

namespace TableQuery

namespace Expr

mutual
/-- The nodes in reading order with their depths, the root standing at depth `d`. -/
def placed (d : Nat) (x : Expr) : List (Nat × Expr) :=
  (d, x) :: match x with
    | const _ => []
    | field _ _ => []
    | unary _ _ x => placed (d + 1) x
    | binary _ _ l r => placed (d + 1) l ++ placed (d + 1) r
    | call _ _ args => placedAll (d + 1) args

/-- The nodes of arguments that all stand at depth `d`. -/
def placedAll (d : Nat) : List Expr → List (Nat × Expr)
  | [] => []
  | x :: xs => placed d x ++ placedAll d xs
end

theorem placedAll_eq (d : Nat) (xs : List Expr) : placedAll d xs = xs.flatMap (placed d) := by
  induction xs with
  | nil => rfl
  | cons x xs ih => rw [placedAll, List.flatMap_cons, ih]

/-- The root, then its operands one level deeper. -/
theorem placed_eq (d : Nat) (x : Expr) :
    x.placed d = (d, x) :: x.operands.flatMap (placed (d + 1)) := by
  cases x <;> simp [placed, operands, placedAll_eq]

/-- The nodes that are listed are those of the expression. -/
theorem exists_mem_placed_iff {x y : Expr} {d : Nat} : (∃ k, (k, y) ∈ x.placed d) ↔ y.Within x := by
  induction x using operandInduct generalizing d with
  | h x ih =>
    rw [placed_eq, within_iff]
    simp only [List.mem_cons, Prod.mk.injEq, List.mem_flatMap, exists_or, exists_eq_left]
    refine or_congr (by simp) ⟨?_, ?_⟩
    · rintro ⟨k, z, hz, hk⟩
      exact ⟨z, hz, (ih z hz).1 ⟨k, hk⟩⟩
    · rintro ⟨z, hz, hy⟩
      obtain ⟨k, hk⟩ := (ih z hz).2 hy
      exact ⟨k, z, hz, hk⟩

end Expr

theorem Entity.access_eq_ok {e : Entity} {name s : String} {type : ScalarType} :
    e.access name type = .ok s ↔ ∃ f, e.field? name = some f ∧ f.type = type ∧ s = f.wireName := by
  unfold access resolve
  cases e.field? name with
  | none => simp
  | some f => by_cases h : f.type = type <;> simp [h, pure, Except.pure, eq_comm (a := s)]

namespace Filter

variable {e : Entity} {max : Nat}

/-! ## Faults -/

/-- What is wrong with a node whatever its depth: a constant without a literal, or a field that the
entity lacks or has with another type. -/
def nodeFault? (e : Entity) : Expr → Option RenderError
  | .const v => v.literalError?.map .literal
  | .field name type =>
    match e.access name type with
    | .ok _ => none
    | .error err => some err
  | _ => none

/-- What is wrong with a node at depth `d`. Its depth is judged first. -/
def placedFault? (e : Entity) (max : Nat) (p : Nat × Expr) : Option RenderError :=
  if max < p.1 then some (.tooDeep max) else nodeFault? e p.2

/-- The first fault in reading order, the root standing at depth `d`. -/
def fault? (e : Entity) (max d : Nat) (x : Expr) : Option RenderError :=
  (x.placed d).findSome? (placedFault? e max)

theorem findSome?_flatMap_placed (d : Nat) (xs : List Expr) :
    (xs.flatMap (Expr.placed d)).findSome? (placedFault? e max) = xs.findSome? (fault? e max d) := by
  induction xs with
  | nil => rfl
  | cons x xs ih => rw [List.flatMap_cons, List.findSome?_append, ih, findSome?_cons_or, fault?]

theorem fault?_eq (d : Nat) (x : Expr) :
    fault? e max d x =
      (placedFault? e max (d, x)).or (x.operands.findSome? (fault? e max (d + 1))) := by
  rw [fault?, Expr.placed_eq, findSome?_cons_or, findSome?_flatMap_placed]

/-! ## Texts -/

/-- The service's name for a field, empty for one that the entity lacks. -/
def wireText (e : Entity) (name : String) : String := (e.field? name).elim "" EntityField.wireName

mutual
/-- The text of an expression. -/
def text (e : Entity) : Expr → String
  | .const v => v.literalText
  | .field name _ => wireText e name
  | .unary op _ x =>
    match op.form with
    | .call token => token ++ "(" ++ text e x ++ ")"
    | .sign token => token ++ text e x
  | .binary op _ l r => "(" ++ text e l ++ " " ++ op.token ++ " " ++ text e r ++ ")"
  | .call f _ args => f.name ++ "(" ++ ",".intercalate (texts e args) ++ ")"

/-- The texts of arguments. -/
def texts (e : Entity) : List Expr → List String
  | [] => []
  | x :: xs => text e x :: texts e xs
end

theorem texts_eq (xs : List Expr) : texts e xs = xs.map (text e) := by
  induction xs with
  | nil => rfl
  | cons x xs ih => rw [texts, List.map_cons, ih]

theorem literal_eq (e : Entity) (v : Value) :
    literal v = outcome (nodeFault? e (.const v)) v.literalText := by
  cases h : v.literalError? <;> simp [literal, Value.literal, nodeFault?, outcome, h]

theorem access_eq (name : String) (type : ScalarType) :
    e.access name type = outcome (nodeFault? e (.field name type)) (wireText e name) := by
  cases h : e.access name type with
  | error err => simp [nodeFault?, outcome, h]
  | ok s =>
    obtain ⟨f, hf, -, rfl⟩ := Entity.access_eq_ok.1 h
    simp [nodeFault?, outcome, h, wireText, hf]

theorem writeArguments_eq {d : Nat} {xs : List Expr}
    (h : ∀ x ∈ xs, ∀ out, write e max out d x = outcome (fault? e max d x) (out ++ text e x))
    (out : String) :
    writeArguments e max out d xs =
      outcome (xs.findSome? (fault? e max d)) (out ++ ",".intercalate (texts e xs)) := by
  induction xs generalizing out with
  | nil => simp [writeArguments, texts, outcome]
  | cons x xs ih =>
    -- The last argument has no comma behind it, so a single one is a case of its own.
    have hx := h x List.mem_cons_self
    have hxs := ih fun y hy => h y (List.mem_cons_of_mem x hy)
    cases xs with
    | nil =>
      rw [writeArguments, hx]
      simp [texts]
    | cons y ys =>
      rw [writeArguments, hx]
      refine (outcome_bind (f := fun out => writeArguments e max (out ++ ",") d (y :: ys)) (hxs _)).trans ?_
      rw [findSome?_cons_or _ x]
      simp [texts, String.append_assoc]

/-- What is written goes behind what was there, and nothing but a fault depends on the depth. -/
theorem write_eq (x : Expr) (out : String) (d : Nat) :
    write e max out d x = outcome (fault? e max d x) (out ++ text e x) := by
  -- A node that is not too deep hands its operands what has been written so far, one level deeper.
  induction x generalizing out d with
  | const v =>
    rw [write, fault?_eq, placedFault?]
    split
    · rfl
    · rw [literal_eq e, outcome_map]
      simp [Expr.operands, text]
  | field name type =>
    rw [write, fault?_eq, placedFault?]
    split
    · rfl
    · rw [access_eq, outcome_map]
      simp [Expr.operands, text]
  | unary op type x ih =>
    rw [write, fault?_eq, placedFault?]
    split
    · rfl
    · cases op with
      | not =>
        simp only [UnaryOp.form, ih, outcome_map]
        simp [nodeFault?, Expr.operands, findSome?_cons_or, text, UnaryOp.form, String.append_assoc]
      | negate =>
        simp only [UnaryOp.form, ih]
        simp [nodeFault?, Expr.operands, findSome?_cons_or, text, UnaryOp.form, String.append_assoc]
  | binary op type l r ihl ihr =>
    rw [write, fault?_eq, placedFault?]
    split
    · rfl
    · rw [ihl]
      refine (outcome_bind (q := fault? e max (d + 1) r) (by rw [ihr, outcome_map])).trans ?_
      simp [nodeFault?, Expr.operands, findSome?_cons_or, text, String.append_assoc]
  | call f type args ih =>
    rw [write, fault?_eq, placedFault?]
    split
    · rfl
    · rw [writeArguments_eq fun x hx out => ih x hx out (d + 1), outcome_map]
      simp [nodeFault?, Expr.operands, text, String.append_assoc]

/-! ## Rendering -/

theorem render_eq (x : Expr) : render e max x = outcome (fault? e max 1 x) (text e x) := by
  rw [render, write_eq, String.empty_append]

theorem render_eq_ok {x : Expr} {s : String} :
    render e max x = .ok s ↔ fault? e max 1 x = none ∧ text e x = s := by
  rw [render_eq]
  cases fault? e max 1 x <;> simp [outcome]

/-- A tree without faults has none in any of its nodes. -/
theorem every_of_render {x : Expr} {s : String} (h : render e max x = .ok s) :
    x.Every fun y => nodeFault? e y = none := by
  intro y hy
  obtain ⟨k, hk⟩ := (Expr.exists_mem_placed_iff (d := 1)).2 hy
  have hnone := List.findSome?_eq_none_iff.1 (render_eq_ok.1 h).1 (k, y) hk
  unfold placedFault? at hnone
  split at hnone
  · cases hnone
  · exact hnone

theorem findSome?_of_depths {xs : List Expr} {d : Nat}
    (h : ∀ x ∈ xs, fault? e max d x = if d + x.depth ≤ max + 1 then none else some (.tooDeep max)) :
    xs.findSome? (fault? e max d) =
      if ∀ x ∈ xs, d + x.depth ≤ max + 1 then none else some (.tooDeep max) := by
  induction xs with
  | nil => simp
  | cons x xs ih =>
    rw [findSome?_cons_or, h x List.mem_cons_self, ih fun y hy => h y (List.mem_cons_of_mem x hy)]
    by_cases hx : d + x.depth ≤ max + 1 <;> simp [hx]

/-- Where no node is wrong in itself, only the depth counts. -/
theorem fault?_of_every {x : Expr} (h : x.Every fun y => nodeFault? e y = none) (d : Nat) :
    fault? e max d x = if d + x.depth ≤ max + 1 then none else some (.tooDeep max) := by
  induction x using Expr.operandInduct generalizing d with
  | h x ih =>
    rw [fault?_eq, placedFault?, h.here, findSome?_of_depths fun z hz => ih z hz (h.operand hz) (d + 1)]
    by_cases hd : max < d
    · have hdepth : ¬d + x.depth ≤ max + 1 := by have := x.depth_pos; omega
      rw [if_pos hd, if_neg hdepth]
      rfl
    · -- The root itself is at a depth that is kept, and takes one level from its operands.
      have hdepth : (∀ z ∈ x.operands, d + 1 + z.depth ≤ max + 1) ↔ d + x.depth ≤ max + 1 := by
        have hle := @Expr.depths_le_iff x.operands (max - d)
        rw [Expr.depth_eq]
        constructor
        · intro hz
          have := hle.2 fun z hzx => by have := hz z hzx; omega
          omega
        · intro hx z hzx
          have := hle.1 (by omega) z hzx
          omega
      simp only [if_neg hd, hdepth]
      rfl

end Filter

end TableQuery
