import TableQuery.Failure
import TableQuery.Proofs.Composition
/-!
# Looser limits

Each check of a composition asks the same of a query under looser limits, or less. So whatever the looser
limits stop is stopped by the tighter ones too, by the same error unless a limit comes before it, and what is
composed does not show under which limits that was.
-/

namespace TableQuery

/-- Every bound is at most the other one's, a bound that is not set being the greatest. -/
structure Limits.AtMost (l m : Limits) : Prop where
  filterDepth : l.filterDepth ≤ m.filterDepth
  orderKeys : l.orderKeys ≤ m.orderKeys
  top : ∀ b, m.top = some b → ∃ a, l.top = some a ∧ a ≤ b

theorem findSome?_eq_or {α β : Type} {f g : α → Option β} {b : β} (h : ∀ x, f x = g x ∨ f x = some b)
    (xs : List α) : xs.findSome? f = xs.findSome? g ∨ xs.findSome? f = some b := by
  induction xs with
  | nil => exact .inl rfl
  | cons x xs ih =>
    rw [List.findSome?_cons, List.findSome?_cons]
    rcases h x with hx | hx
    · rw [hx]
      cases g x with
      | none => exact ih
      | some c => exact .inl rfl
    · rw [hx]
      exact .inr rfl

/-- With a lower bound on the depth the first fault is the same, or a node that is too deep for it. -/
theorem Filter.fault?_of_le {e : Entity} {k max : Nat} (h : k ≤ max) (d : Nat) (x : Expr) :
    fault? e k d x = fault? e max d x ∨ fault? e k d x = some (.tooDeep k) := by
  refine findSome?_eq_or ?_ _
  intro p
  unfold placedFault?
  by_cases hk : k < p.1
  · exact .inr (if_pos hk)
  · rw [if_neg hk, if_neg (by omega)]
    exact .inl rfl

namespace Query

/-- The tighter limits find the same fault as the looser ones, or a limit that is not kept. -/
def Tightens (tight loose : Option QueryError) : Prop :=
  tight = loose ∨ ∃ err, tight = some err ∧ err.failureClass = .limit

theorem Tightens.same (fault : Option QueryError) : Tightens fault fault := .inl rfl

/-- One check after another. -/
theorem Tightens.or {p q p' q' : Option QueryError} (h : Tightens p p') (h' : Tightens q q') :
    Tightens (p.or q) (p'.or q') := by
  rcases h with rfl | ⟨err, rfl, hclass⟩
  · cases p with
    | none => exact h'
    | some err => exact .same _
  · exact .inr ⟨err, rfl, hclass⟩

variable {l m : Limits}

/-! ## Checks one by one -/

theorem filterFault?_tightens (q : Query) (e : Entity) (h : l.AtMost m) :
    Tightens (q.filterFault? e l) (q.filterFault? e m) := by
  unfold filterFault?
  cases q.predicate with
  | none => exact .same _
  | some x =>
    rcases Filter.fault?_of_le h.filterDepth 1 x with heq | heq
    · rw [Option.bind_some, Option.bind_some, heq]
      exact .same _
    · rw [Option.bind_some, heq]
      exact .inr ⟨_, rfl, rfl⟩

theorem orderFault?_tightens (q : Query) (e : Entity) (h : l.AtMost m) :
    Tightens (q.orderFault? e l) (q.orderFault? e m) := by
  unfold orderFault?
  have hkeys := h.orderKeys
  by_cases hl : l.orderKeys < q.order.length
  · rw [if_pos hl]
    exact .inr ⟨_, rfl, rfl⟩
  · rw [if_neg hl, if_neg (by omega)]
    exact .same _

theorem topFault?_tightens (q : Query) (h : l.AtMost m) : Tightens (q.topFault? l) (q.topFault? m) := by
  have hlimit : q.topFault? l = none ∨ ∃ err, q.topFault? l = some err ∧ err.failureClass = .limit := by
    unfold topFault?
    cases q.top with
    | none => exact .inl rfl
    | some n =>
      cases l.top with
      | none => exact .inl rfl
      | some a =>
        by_cases hn : a < n
        · exact .inr ⟨_, if_pos hn, rfl⟩
        · exact .inl (if_neg hn)
  rcases hlimit with hnone | hlimit
  · -- A page that the lower bound allows is allowed by the higher one.
    refine .inl (hnone.trans ?_)
    unfold topFault? at hnone ⊢
    cases hq : q.top with
    | none => rfl
    | some n =>
      cases hm : m.top with
      | none => rfl
      | some b =>
        obtain ⟨a, ha, hab⟩ := h.top b hm
        simp only [hq, ha, Option.bind_some, ite_eq_right_iff, reduceCtorEq, imp_false] at hnone
        simp only [Option.bind_some]
        rw [if_neg (by omega)]
  · exact .inr hlimit

theorem fault?_tightens (q : Query) (e : Entity) (h : l.AtMost m) : Tightens (q.fault? e l) (q.fault? e m) := by
  unfold fault?
  exact (Tightens.same _).or <| (filterFault?_tightens q e h).or <| (orderFault?_tightens q e h).or <|
    (Tightens.same _).or <| (topFault?_tightens q h).or (Tightens.same _)

/-! ## Compositions -/

/-- What is composed under limits is composed the same under looser ones, and an error under the looser ones
is the error under the tighter ones too, unless these stop the query with a limit. Wherever a query is
composed its text is the same. -/
theorem compose_under_looser (q : Query) (e : Entity) :
    (∀ l m : Limits, l.AtMost m →
      (∀ s, q.compose e l = .ok s → q.compose e m = .ok s) ∧
        ∀ err, q.compose e m = .error err →
          q.compose e l = .error err ∨
            ∃ other, q.compose e l = .error other ∧ other.failureClass = .limit) ∧
      ∀ (l m : Limits) (s t : String), q.compose e l = .ok s → q.compose e m = .ok t → s = t := by
  constructor
  · intro l m h
    have htight := fault?_tightens q e h
    constructor
    · intro s hs
      obtain ⟨hnone, htext⟩ := compose_eq_ok.1 hs
      rcases htight with hsame | ⟨err, herr, -⟩
      · exact compose_eq_ok.2 ⟨hsame.symm.trans hnone, htext⟩
      · rw [hnone] at herr
        cases herr
    · intro err herr
      rcases htight with hsame | ⟨other, hother, hclass⟩
      · exact .inl (compose_eq_error.2 (hsame.trans (compose_eq_error.1 herr)))
      · exact .inr ⟨other, compose_eq_error.2 hother, hclass⟩
  · intro l m s t hs ht
    rw [← (compose_eq_ok.1 hs).2, (compose_eq_ok.1 ht).2]

/-- The lost field is found only by limits that reach it. What the tighter ones compose stays as it is. -/
theorem compose_under_looser_lost :
    let film : Entity := ⟨"film", []⟩
    let q : Query := { predicate := some (.unary .not .bool (.unary .not .bool (.field "lost" .bool))) }
    let plain : Query := { deleted := true }
    let l : Limits := { filterDepth := 2 }
    let m : Limits := { filterDepth := 3 }
    l.AtMost m ∧
      (q.compose film m = .error (.render (.unknownField "film" "lost")) ∧
        ∃ other, q.compose film l = .error other ∧ other.failureClass = .limit) ∧
      plain.compose film l = .ok "__includedeleted=true" ∧
      plain.compose film m = .ok "__includedeleted=true" := by
  intro film q plain l m
  have hle : l.AtMost m := ⟨by decide, by decide, by simp [m]⟩
  have hlost : q.compose film m = .error (.render (.unknownField "film" "lost")) := rfl
  have hplain : plain.compose film l = .ok "__includedeleted=true" := rfl
  refine ⟨hle, ⟨hlost, ?_⟩, hplain, ((compose_under_looser plain film).1 l m hle).1 _ hplain⟩
  rcases ((compose_under_looser q film).1 l m hle).2 _ hlost with hsame | hlimit
  · cases hsame
  · exact hlimit

end Query

end TableQuery
