import TableQuery.Builder
import TableQuery.Proofs.Building
/-!
# Runs of calls

A query is built by calls in any order, of which some can fail. What every accepted call keeps holds of
the query after all of them (`holds_after`), so a property of built queries takes one case a call.
-/

namespace TableQuery

namespace Query

/-- The query after calls. A call that fails leaves it as it was. -/
def after (q : Query) : List Call → Query
  | [] => q
  | c :: cs =>
    match q.call c with
    | .ok r => after r cs
    | .error _ => after q cs

theorem after_append (q : Query) (cs ds : List Call) : q.after (cs ++ ds) = (q.after cs).after ds := by
  induction cs generalizing q with
  | nil => rfl
  | cons c cs ih =>
    rw [List.cons_append, after, after]
    cases q.call c with
    | ok r => exact ih r
    | error err => exact ih q

/-- The calls that succeed when all are made in order. -/
def accepted (q : Query) : List Call → List Call
  | [] => []
  | c :: cs =>
    match q.call c with
    | .ok r => c :: accepted r cs
    | .error _ => accepted q cs

theorem mem_of_mem_accepted {q : Query} {c : Call} {calls : List Call} (h : c ∈ q.accepted calls) :
    c ∈ calls := by
  induction calls generalizing q with
  | nil => exact h
  | cons d ds ih =>
    unfold accepted at h
    split at h
    · rcases List.mem_cons.1 h with rfl | h
      · exact List.mem_cons_self
      · exact List.mem_cons_of_mem d (ih h)
    · exact List.mem_cons_of_mem d (ih h)

/-- What every accepted call keeps holds after all of them. -/
theorem holds_after {I : Query → Prop} {p : Call → Prop}
    (hstep : ∀ q c r, I q → p c → q.call c = .ok r → I r) {q : Query} {calls : List Call} (hq : I q)
    (hp : ∀ c ∈ q.accepted calls, p c) : I (q.after calls) := by
  induction calls generalizing q with
  | nil => exact hq
  | cons c cs ih =>
    unfold after
    unfold accepted at hp
    cases h : q.call c with
    | ok r =>
      simp only [h, List.forall_mem_cons] at hp
      exact ih (hstep q c r hq hp.1 h) hp.2
    | error err =>
      simp only [h] at hp
      exact ih hq hp

/-! ## Accepted calls -/

/-- Conditions nest to the left. -/
def conjunction (held : Option Expr) (x : Expr) : Expr :=
  held.elim x fun h => .binary (.logical .and) .bool h x

theorem alignNumbers_of_bool {l r : Expr} (hl : l.type = .bool) : l.alignNumbers r = (l, r) := by
  rcases Expr.alignNumbers_cases l r with ⟨t, ht, -⟩ | ⟨-, h⟩
  · rw [hl] at ht
    cases ht
  · exact h

theorem apply_and {l r : Expr} (hl : l.type = .bool) (hr : r.type = .bool) (el : l.Encodable)
    (er : r.Encodable) :
    (BinaryOp.logical .and).apply l r = .ok (.binary (.logical .and) .bool l r) := by
  rw [BinaryOp.apply_eq_ok]
  refine ⟨el, er, ?_⟩
  rw [if_neg (by simp), alignNumbers_of_bool hl]
  exact ⟨.bool, by simp [BinaryOp.resultType?, hl, hr], rfl⟩

theorem encodable_of_bool {x : Expr} (h : x.type = .bool) : x.Encodable := by
  rintro v rfl
  cases v <;> first | rfl | cases h

/-- What was held before a condition must be one too. -/
theorem addPredicate_eq {q : Query} (hq : ∀ held, q.predicate = some held → held.type = .bool) (x : Expr) :
    q.addPredicate x =
      outcome (if x.type = .bool then none else some (.nonBoolean x.type))
        { q with predicate := some (conjunction q.predicate x) } := by
  unfold addPredicate
  by_cases hx : x.type = .bool
  · have hcheck : x.check = .ok () := Expr.check_eq_ok.2 (encodable_of_bool hx)
    cases hp : q.predicate with
    | none => simp [Expr.isBoolean, hx, hcheck, conjunction, pure, Except.pure]
    | some held =>
      have hheld := hq held hp
      have happly := apply_and hheld hx (encodable_of_bool hheld) (encodable_of_bool hx)
      simp [Expr.isBoolean, hx, hcheck, happly, conjunction, pure, Except.pure]
  · simp [Expr.isBoolean, hx]

end Query

/-- What a call fails with, whatever the query. -/
def Call.fault? : Call → Option QueryError
  | .filter x => if x.type = .bool then none else some (.nonBoolean x.type)
  | .skip n => if n < 0 then some (.negativeBound .skip n) else none
  | .take n => if n < 0 then some (.negativeBound .take n) else none
  | .parameter key _ => if isReservedKey key then some (.reservedParameter key) else none
  | _ => none

namespace Query

/-- The query with the one part changed that a call is about. -/
def changed (q : Query) : Call → Query
  | .filter x => { q with predicate := some (conjunction q.predicate x) }
  | .orderBy k => { q with order := [k] }
  | .thenBy k => { q with order := q.order ++ [k] }
  | .select fields => { q with selection := fields }
  | .skip n => { q with skip := some n.toNat }
  | .take n => { q with top := some n.toNat }
  | .totalCount on => { q with totalCount := on }
  | .deleted on => { q with deleted := on }
  | .parameter key value => { q with parameters := q.parameters.insert key value }

/-- A call fails with a fault of its own, and changes one part otherwise. -/
theorem call_eq {q : Query} (hq : ∀ held, q.predicate = some held → held.type = .bool) (c : Call) :
    q.call c = outcome c.fault? (q.changed c) := by
  cases c with
  | filter x => exact addPredicate_eq hq x
  | skip n | take n =>
    by_cases h : n < 0 <;> simp [Query.call, pageBound, Call.fault?, changed, h, pure, Except.pure]
  | parameter key value =>
    by_cases h : isReservedKey key = true <;> simp [Query.call, Call.fault?, changed, h]
  | _ => rfl

theorem call_eq_ok {q r : Query} (hq : ∀ held, q.predicate = some held → held.type = .bool) {c : Call} :
    q.call c = .ok r ↔ c.fault? = none ∧ q.changed c = r := by
  rw [call_eq hq, outcome_eq_ok]

theorem call_eq_error {q : Query} (hq : ∀ held, q.predicate = some held → held.type = .bool) {c : Call}
    {err : QueryError} : q.call c = .error err ↔ c.fault? = some err := by
  rw [call_eq hq, outcome_eq_error]

/-! ## Valid queries -/

/-- What a query keeps through any calls: its predicate is one that could be built and is a condition,
and the parameters of the caller's own stay off the keys of the service. -/
structure Valid (q : Query) : Prop where
  built : ∀ x, q.predicate = some x → x.Built
  boolean : ∀ x, q.predicate = some x → x.type = .bool
  parameters : ∀ a ∈ q.parameters.entries, isReservedKey a.1 = false

end Query

/-- The call brings no expression but one that can be built. -/
def Call.BringsBuilt : Call → Prop
  | .filter x => x.Built
  | _ => True

namespace Query

theorem valid_empty : Valid {} where
  built _ h := by cases h
  boolean _ h := by cases h
  parameters _ h := by cases h

theorem built_conjunction {q : Query} (hq : q.Valid) {x : Expr} (hx : x.Built) (ht : x.type = .bool) :
    (conjunction q.predicate x).Built ∧ (conjunction q.predicate x).type = .bool := by
  cases hp : q.predicate with
  | none => exact ⟨hx, ht⟩
  | some held =>
    have hheld := hq.boolean held hp
    exact ⟨.binary (hq.built held hp) hx
      (apply_and hheld ht (encodable_of_bool hheld) (encodable_of_bool ht)), rfl⟩

theorem Valid.call {q r : Query} {c : Call} (hq : q.Valid) (hc : c.BringsBuilt)
    (h : q.call c = .ok r) : r.Valid := by
  obtain ⟨hfault, rfl⟩ := (call_eq_ok hq.boolean).1 h
  cases c with
  | filter x =>
    have hx : x.type = .bool := by simpa [Call.fault?] using hfault
    obtain ⟨hb, ht⟩ := built_conjunction hq hc hx
    refine ⟨?_, ?_, hq.parameters⟩
    · intro y hy
      cases hy
      exact hb
    · intro y hy
      cases hy
      exact ht
  | parameter key value =>
    refine ⟨hq.built, hq.boolean, ?_⟩
    intro a ha
    rcases SortedMap.mem_insertEntry ha with rfl | ha
    · simpa [Call.fault?] using hfault
    · exact hq.parameters a ha
  | _ => exact ⟨hq.built, hq.boolean, hq.parameters⟩

theorem valid_after {calls : List Call} (h : ∀ c ∈ ({} : Query).accepted calls, c.BringsBuilt) :
    (({} : Query).after calls).Valid := by
  apply holds_after _ valid_empty h
  intro q c r hq hc hr
  exact hq.call hc hr

end Query

end TableQuery
