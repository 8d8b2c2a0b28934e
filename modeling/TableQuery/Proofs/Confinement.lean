import TableQuery.Proofs.FilterText
import TableQuery.Proofs.Phrases
/-!
# Texts stay in their quotes

A constant stands in an expression as in a context with a hole. What is written in front of it and behind it,
and whether anything is written at all, is up to the context: another text in the hole changes what stands
between the quotes and nothing else.
-/

namespace TableQuery

/-! ## Contexts -/

/-- An expression with one node left out. -/
inductive Expr.Context
  | hole
  | unary (op : UnaryOp) (type : ScalarType) (c : Context)
  | left (op : BinaryOp) (type : ScalarType) (c : Context) (r : Expr)
  | right (op : BinaryOp) (type : ScalarType) (l : Expr) (c : Context)
  | argument (f : Function) (type : ScalarType) (before : List Expr) (c : Context) (after : List Expr)

namespace Expr.Context

/-- The expression with a node put in the hole. -/
def fill : Context → Expr → Expr
  | hole, x => x
  | unary op t c, x => .unary op t (c.fill x)
  | left op t c r, x => .binary op t (c.fill x) r
  | right op t l c, x => .binary op t l (c.fill x)
  | argument f t before c after, x => .call f t (before ++ c.fill x :: after)

/-- The nodes of an expression are those that fill a context to it. -/
theorem within_iff_exists_fill {x y : Expr} : y.Within x ↔ ∃ c : Context, c.fill y = x := by
  constructor
  · intro h
    induction h with
    | root => exact ⟨hole, rfl⟩
    | @under z x hz _ ih =>
      obtain ⟨c, rfl⟩ := ih
      cases x with
      | const | field => cases hz
      | unary op t x =>
        obtain rfl := List.mem_singleton.1 hz
        exact ⟨unary op t c, rfl⟩
      | binary op t l r =>
        rcases List.mem_cons.1 hz with rfl | hz
        · exact ⟨left op t c r, rfl⟩
        · obtain rfl := List.mem_singleton.1 hz
          exact ⟨right op t l c, rfl⟩
      | call f t args =>
        obtain ⟨before, after, rfl⟩ := List.append_of_mem hz
        exact ⟨argument f t before c after, rfl⟩
  · rintro ⟨c, rfl⟩
    induction c with
    | hole => exact .root y
    | unary op t c ih => exact .under List.mem_cons_self ih
    | left op t c r ih => exact .under List.mem_cons_self ih
    | right op t l c ih => exact .under (List.mem_cons_of_mem l List.mem_cons_self) ih
    | argument f t before c after ih => exact .under (List.mem_append_right before List.mem_cons_self) ih

end Expr.Context

namespace Filter

variable {e : Entity} {max : Nat}

/-! ## What a context writes -/

/-- Among texts with commas between them, one can be changed without a change to what is around it. -/
theorem exists_intercalate_eq (xs ys : List String) :
    ∃ p q : String, (∀ s, ",".intercalate (xs ++ s :: ys) = p ++ s ++ q) ∧ Stops (q ++ ")").toList := by
  induction xs with
  | nil =>
    cases ys with
    | nil => exact ⟨"", "", by simp, stops_of_head? rfl (by decide)⟩
    | cons y ys =>
      refine ⟨"", "," ++ ",".intercalate (y :: ys), ?_, ?_⟩
      · intro s
        simp [String.append_assoc]
      · exact stops_of_head? (c := ',') (by simp) (by decide)
  | cons x xs ih =>
    obtain ⟨p, q, h, hq⟩ := ih
    refine ⟨x ++ "," ++ p, q, ?_, hq⟩
    intro s
    rw [List.cons_append, String.intercalate_cons_of_ne_nil (by simp), h]
    simp only [String.append_assoc]

/-- Whatever is in the hole, a context writes the same in front of it and behind it. What it writes behind it
could not go on with a phrase. -/
theorem exists_text_fill (e : Entity) (c : Expr.Context) :
    ∃ p q : String, (∀ x, text e (c.fill x) = p ++ text e x ++ q) ∧ Stops q.toList := by
  induction c with
  | hole =>
    refine ⟨"", "", by simp [Expr.Context.fill], ?_⟩
    intro d hd
    cases hd
  | unary op t c ih =>
    obtain ⟨p, q, h, hq⟩ := ih
    cases op with
    | not =>
      refine ⟨"not(" ++ p, q ++ ")", ?_, ?_⟩
      · intro x
        simp [Expr.Context.fill, text, UnaryOp.form, h, String.append_assoc]
      · rw [String.toList_append]
        exact stops_append hq (stops_of_head? rfl (by decide))
    | negate =>
      refine ⟨"-" ++ p, q, ?_, hq⟩
      intro x
      simp [Expr.Context.fill, text, UnaryOp.form, h, String.append_assoc]
  | left op t c r ih =>
    obtain ⟨p, q, h, hq⟩ := ih
    refine ⟨"(" ++ p, q ++ (" " ++ (op.token ++ " " ++ text e r ++ ")")), ?_, ?_⟩
    · intro x
      simp [Expr.Context.fill, text, h, String.append_assoc]
    · rw [String.toList_append]
      exact stops_append hq (stops_of_head? (c := ' ') (by simp) (by decide))
  | right op t l c ih =>
    obtain ⟨p, q, h, hq⟩ := ih
    refine ⟨"(" ++ text e l ++ " " ++ op.token ++ " " ++ p, q ++ ")", ?_, ?_⟩
    · intro x
      simp [Expr.Context.fill, text, h, String.append_assoc]
    · rw [String.toList_append]
      exact stops_append hq (stops_of_head? rfl (by decide))
  | argument f t before c after ih =>
    obtain ⟨p, q, h, hq⟩ := ih
    obtain ⟨p', q', h', hq'⟩ := exists_intercalate_eq (before.map (text e)) (after.map (text e))
    refine ⟨f.name ++ "(" ++ p' ++ p, q ++ (q' ++ ")"), ?_, ?_⟩
    · intro x
      simp [Expr.Context.fill, text, texts_eq, h, h', String.append_assoc]
    · rw [String.toList_append]
      exact stops_append hq hq'

/-! ## What a context fails with -/

/-- A context fails alike around nodes that fail alike. -/
theorem fault?_fill {x y : Expr} (h : ∀ d, fault? e max d x = fault? e max d y) (c : Expr.Context) (d : Nat) :
    fault? e max d (c.fill x) = fault? e max d (c.fill y) := by
  induction c generalizing d with
  | hole => exact h d
  | unary op t c ih =>
    simp only [Expr.Context.fill, fault?_eq d, placedFault?, nodeFault?, Expr.operands, List.findSome?_cons, ih]
  | left op t c r ih =>
    simp only [Expr.Context.fill, fault?_eq d, placedFault?, nodeFault?, Expr.operands, List.findSome?_cons, ih]
  | right op t l c ih =>
    simp only [Expr.Context.fill, fault?_eq d, placedFault?, nodeFault?, Expr.operands, List.findSome?_cons, ih]
  | argument f t before c after ih =>
    simp only [Expr.Context.fill, fault?_eq d, placedFault?, nodeFault?, Expr.operands, List.findSome?_append,
      List.findSome?_cons, ih]

/-- A text is refused for nothing but its depth. -/
theorem fault?_text (d : Nat) (s : String) :
    fault? e max d (.const (.text s)) = if max < d then some (.tooDeep max) else none := by
  rw [fault?_eq, placedFault?]
  split <;> rfl

/-- Every text in an expression stands in a context. All texts in the same context are refused alike, or each is
written as its literal between the same two texts. The second of these does not begin with a quote, so that
reading stops at the end of the literal and gives the text back. -/
theorem text_confined (e : Entity) (max : Nat) :
    (∀ (x : Expr) (s : String), (Expr.const (.text s)).Within x →
        ∃ c : Expr.Context, c.fill (.const (.text s)) = x) ∧
      ∀ c : Expr.Context,
        (∃ err, ∀ s, render e max (c.fill (.const (.text s))) = .error err) ∨
          ∃ p q : String, q.toList.head? ≠ some '\'' ∧
            ∀ s, ∃ lit, (Value.text s).literal = .ok lit ∧
              render e max (c.fill (.const (.text s))) = .ok (p ++ lit ++ q) ∧
              Quoted.decode (lit ++ q).toList = some (s.toList, q.toList) := by
  constructor
  · intro x s h
    exact Expr.Context.within_iff_exists_fill.1 h
  · intro c
    have hsame (s : String) :
        fault? e max 1 (c.fill (.const (.text s))) = fault? e max 1 (c.fill (.const (.text ""))) := by
      apply fault?_fill
      intro d
      rw [fault?_text, fault?_text]
    cases hfault : fault? e max 1 (c.fill (.const (.text ""))) with
    | some err =>
      refine .inl ⟨err, ?_⟩
      intro s
      rw [render_eq, hsame, hfault]
      rfl
    | none =>
      obtain ⟨p, q, htext, hq⟩ := exists_text_fill e c
      refine .inr ⟨p, q, hq.not_quote, ?_⟩
      intro s
      refine ⟨(Value.text s).literalText, rfl, ?_, ?_⟩
      · rw [render_eq, hsame, hfault, htext]
        rfl
      · rw [String.toList_append, Value.literalText, String.toList_ofList]
        exact Quoted.decode_encode_append _ hq.not_quote

end Filter

end TableQuery
