import TableQuery.Failure
import TableQuery.Proofs.Composition
import TableQuery.Proofs.Runs
/-!
# What a built query is refused for

Composition checks once more what every call has checked. In a query built by calls these checks find
nothing: the predicate is a condition whose constants have literals, and no parameter has a key of the
service. What can still stop it are fields that the entity lacks or declares otherwise, and the three limits.
-/

namespace TableQuery

/-! ## Classes of errors -/

namespace QueryError

/-- The errors of every class, by what they say was wrong. -/
inductive OfClass : FailureClass → QueryError → Prop
  | unknownFunction (name : String) : OfClass .unsupported (expr (.unknownFunction name))
  | arity (f : Function) (found : Nat) : OfClass .unsupported (expr (.arity f found))
  /-- A constant has no literal, whether an operator or the writer finds it. -/
  | literal (e : LiteralError) {err : QueryError} (h : err = expr (.literal e) ∨ err = render (.literal e)) :
    OfClass .unsupported err
  | mismatch (op : BinaryOp) (l r : ScalarType) : OfClass .typeMismatch (expr (.mismatch op l r))
  | operand (op : UnaryOp) (t : ScalarType) : OfClass .typeMismatch (expr (.operand op t))
  | argument (f : Function) (i : Nat) (p : ParamKind) (t : ScalarType) :
    OfClass .typeMismatch (expr (.argument f i p t))
  | nonBoolean (t : ScalarType) : OfClass .typeMismatch (nonBoolean t)
  | negativeBound (bound : PageBound) (n : Int) : OfClass .invalidArgument (negativeBound bound n)
  | reservedParameter (key : String) : OfClass .invalidArgument (reservedParameter key)
  | unknownField (entity field : String) : OfClass .resolution (render (.unknownField entity field))
  | fieldType (entity field : String) (declared used : ScalarType) :
    OfClass .resolution (render (.fieldType entity field declared used))
  | tooDeep (max : Nat) : OfClass .limit (render (.tooDeep max))
  | tooManyOrderKeys (count max : Nat) : OfClass .limit (tooManyOrderKeys count max)
  | topExceeded (top max : Nat) : OfClass .limit (topExceeded top max)

/-- Every error is of one class, and none of a query is one of configuration. -/
theorem failureClass_eq_iff {err : QueryError} {k : FailureClass} : err.failureClass = k ↔ OfClass k err := by
  constructor
  · rintro rfl
    cases err with
    | expr e =>
      cases e with
      | literal e => exact .literal e (.inl rfl)
      | _ => constructor
    | render e =>
      cases e with
      | literal e => exact .literal e (.inr rfl)
      | _ => constructor
    | _ => constructor
  · intro h
    cases h with
    | literal e h => rcases h with rfl | rfl <;> rfl
    | _ => rfl

/-- What is left to refuse a built query for. -/
inductive Refusal : QueryError → Prop
  | unknownField (entity field : String) : Refusal (.render (.unknownField entity field))
  | fieldType (entity field : String) (declared used : ScalarType) :
    Refusal (.render (.fieldType entity field declared used))
  | tooDeep (max : Nat) : Refusal (.render (.tooDeep max))
  | tooManyOrderKeys (count max : Nat) : Refusal (.tooManyOrderKeys count max)
  | topExceeded (top max : Nat) : Refusal (.topExceeded top max)

/-- These are all errors of two classes: fields that are not resolved, and limits. -/
theorem refusal_iff {err : QueryError} :
    err.Refusal ↔ err.failureClass = .resolution ∨ err.failureClass = .limit := by
  rw [failureClass_eq_iff, failureClass_eq_iff]
  constructor
  · intro h
    cases h with
    | unknownField _ _ => exact .inl (.unknownField _ _)
    | fieldType _ _ _ _ => exact .inl (.fieldType _ _ _ _)
    | tooDeep _ => exact .inr (.tooDeep _)
    | tooManyOrderKeys _ _ => exact .inr (.tooManyOrderKeys _ _)
    | topExceeded _ _ => exact .inr (.topExceeded _ _)
  · rintro (h | h)
    · cases h with
      | unknownField _ _ => exact .unknownField _ _
      | fieldType _ _ _ _ => exact .fieldType _ _ _ _
    · cases h with
      | tooDeep _ => exact .tooDeep _
      | tooManyOrderKeys _ _ => exact .tooManyOrderKeys _ _
      | topExceeded _ _ => exact .topExceeded _ _

end QueryError

/-! ## Refusals -/

/-- A field is refused for its name or for its type. -/
theorem Entity.refusal_of_access {e : Entity} {name : String} {type : ScalarType} {err : RenderError}
    (h : e.access name type = .error err) : (QueryError.render err).Refusal := by
  unfold access resolve at h
  cases hf : e.field? name with
  | none =>
    rw [hf] at h
    cases h
    exact .unknownField _ _
  | some f =>
    simp only [hf, ok_bind] at h
    split at h
    · cases h
    · cases h
      exact .fieldType _ _ _ _

namespace Query

variable {q : Query} {e : Entity} {l : Limits} {err : QueryError}

/-! ## Checks that find nothing -/

theorem Valid.predicateFault?_eq_none (hq : q.Valid) : q.predicateFault? = none := by
  unfold Query.predicateFault?
  cases hp : q.predicate with
  | none => rfl
  | some x => simp [Expr.isBoolean, hq.boolean x hp]

theorem Valid.keyFault?_eq_none (hq : q.Valid) : q.parameters.entries.findSome? keyFault? = none := by
  apply List.findSome?_eq_none_iff.2
  intro a ha
  rw [Query.keyFault?, hq.parameters a ha]
  rfl

/-- A constant is the whole predicate, and then a boolean, or it was checked as an operand. -/
theorem Valid.literalError?_eq_none (hq : q.Valid) {x : Expr} (hx : q.predicate = some x) {v : Value}
    (hv : (Expr.const v).Within x) : v.literalError? = none := by
  rcases Expr.eq_or_mem_operands_of_within hv with rfl | ⟨z, hz, hv⟩
  · exact encodable_of_bool (hq.boolean _ hx) v rfl
  · exact ((hq.built x hx).every_sound z hz).encodable v hv

/-! ## Faults part by part -/

theorem Valid.refusal_of_nodeFault? (hq : q.Valid) {x y : Expr} (hx : q.predicate = some x)
    (hy : y.Within x) {fault : RenderError} (h : Filter.nodeFault? e y = some fault) :
    (QueryError.render fault).Refusal := by
  cases y with
  | const v =>
    rw [Filter.nodeFault?, hq.literalError?_eq_none hx hy] at h
    cases h
  | field name type =>
    rw [Filter.nodeFault?] at h
    cases ha : e.access name type with
    | ok s =>
      rw [ha] at h
      cases h
    | error err =>
      rw [ha] at h
      cases h
      exact Entity.refusal_of_access ha
  | _ => cases h

theorem Valid.refusal_of_filterFault? (hq : q.Valid) (h : q.filterFault? e l = some err) :
    err.Refusal := by
  obtain ⟨x, hx, h⟩ := Option.bind_eq_some_iff.1 h
  obtain ⟨fault, hfault, rfl⟩ := Option.map_eq_some_iff.1 h
  obtain ⟨⟨k, y⟩, hy, hnode⟩ := List.exists_of_findSome?_eq_some hfault
  unfold Filter.placedFault? at hnode
  split at hnode
  · cases hnode
    exact .tooDeep _
  · exact hq.refusal_of_nodeFault? hx (Expr.exists_mem_placed_iff.1 ⟨k, hy⟩) hnode

theorem refusal_of_nameFault? {name : String} (h : nameFault? e name = some err) : err.Refusal := by
  unfold nameFault? at h
  split at h
  · cases h
  · cases h
    exact .unknownField _ _

theorem refusal_of_orderFault? (h : q.orderFault? e l = some err) : err.Refusal := by
  unfold orderFault? at h
  split at h
  · cases h
    exact .tooManyOrderKeys _ _
  · obtain ⟨k, -, hk⟩ := List.exists_of_findSome?_eq_some h
    exact refusal_of_nameFault? hk

theorem refusal_of_selectFault? (h : q.selectFault? e = some err) : err.Refusal := by
  obtain ⟨f, -, hf⟩ := List.exists_of_findSome?_eq_some h
  exact refusal_of_nameFault? hf

theorem refusal_of_topFault? (h : q.topFault? l = some err) : err.Refusal := by
  obtain ⟨n, -, h⟩ := Option.bind_eq_some_iff.1 h
  obtain ⟨max, -, h⟩ := Option.bind_eq_some_iff.1 h
  split at h
  · cases h
    exact .topExceeded _ _
  · cases h

theorem Valid.refusal_of_fault? (hq : q.Valid) (h : q.fault? e l = some err) : err.Refusal := by
  rw [fault?, hq.predicateFault?_eq_none, hq.keyFault?_eq_none, Option.none_or, Option.or_none] at h
  -- The first of four parts with a fault is the one that refuses.
  rcases Option.or_eq_some_iff.1 h with h | ⟨-, h⟩
  · exact hq.refusal_of_filterFault? h
  rcases Option.or_eq_some_iff.1 h with h | ⟨-, h⟩
  · exact refusal_of_orderFault? h
  rcases Option.or_eq_some_iff.1 h with h | ⟨-, h⟩
  · exact refusal_of_selectFault? h
  · exact refusal_of_topFault? h

/-! ## Queries built by calls -/

/-- A query built by calls is composed, or refused for a field or a limit. One more condition is accepted
just when it is one, whatever was held before. -/
theorem compose_after_calls {calls : List Call} (hcalls : ∀ c ∈ calls, c.BringsBuilt) (e : Entity)
    (l : Limits) :
    let q := ({} : Query).after calls
    ((∃ s, q.compose e l = .ok s) ∨ ∃ err, q.compose e l = .error err ∧ err.Refusal) ∧
      ∀ x, ((∃ err, q.call (.filter x) = .error err) ↔ x.type ≠ .bool) ∧
        ∀ err, q.call (.filter x) = .error err → err = .nonBoolean x.type := by
  intro q
  have hq : q.Valid := valid_after fun c hc => hcalls c (mem_of_mem_accepted hc)
  constructor
  · cases h : q.compose e l with
    | ok s => exact .inl ⟨s, rfl⟩
    | error err => exact .inr ⟨err, rfl, hq.refusal_of_fault? (compose_eq_error.1 h)⟩
  · intro x
    simp only [call_eq_error hq.boolean, Call.fault?]
    by_cases hx : x.type = .bool <;> simp [hx, eq_comm]

/-- Calls of which three fail, and a field that is no flag. -/
theorem compose_after_calls_mistyped :
    let e : Entity := ⟨"film", [⟨"seen", .bool, none⟩, ⟨"score", .int, none⟩]⟩
    let calls : List Call :=
      [.filter (.field "seen" .bool), .filter (.const (.int 3)), .skip (-1), .parameter "$top" "5",
        .filter (.field "score" .bool)]
    (∀ c ∈ calls, c.BringsBuilt) ∧
      (({} : Query).after calls).compose e {} = .error (.render (.fieldType "film" "score" .int .bool)) ∧
      (QueryError.render (.fieldType "film" "score" .int .bool)).Refusal := by
  intro e calls
  have hcalls : ∀ c ∈ calls, c.BringsBuilt := by
    simp only [calls, List.forall_mem_cons, List.not_mem_nil, false_imp_iff, implies_true, and_true]
    exact ⟨.field _ _, .const _, trivial, trivial, .field _ _⟩
  have herror : (({} : Query).after calls).compose e {} =
      .error (.render (.fieldType "film" "score" .int .bool)) := by rfl
  refine ⟨hcalls, herror, ?_⟩
  obtain ⟨⟨s, hs⟩ | ⟨err, herr, hrefusal⟩, -⟩ := compose_after_calls hcalls e {}
  · rw [herror] at hs
    cases hs
  · rw [herror] at herr
    cases herr
    exact hrefusal

end Query

end TableQuery
