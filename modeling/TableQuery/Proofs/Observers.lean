import TableQuery.Proofs.Moves
/-!
# Sessions without observers

Scopes, reports and resets only observe a session. What is left without them are the steps on drafts, and
each of these gives the answer that it gave among the observers, whatever the counters were (`runAll_core`).
-/

namespace TableQuery

namespace Step

/-- Steps that have to do with events and counters alone. -/
def isObserver : Step → Bool
  | report | entityReport _ | reset | scope _ => true
  | _ => false

mutual
/-- A step without its observers: the steps on drafts, also those inside of scopes. -/
def core : Step → List Step
  | scope steps => coreAll steps
  | x => if x.isObserver then [] else [x]

/-- Steps in order without their observers. -/
def coreAll : List Step → List Step
  | [] => []
  | x :: xs => core x ++ coreAll xs
end

mutual
/-- The steps on drafts with their answers. -/
def exchanges : Step → Answer → List (Step × Answer)
  | scope steps, .scope answers _ => exchangesAll steps answers
  | x, a => if x.isObserver then [] else [(x, a)]

/-- Those of steps in order, from all their answers. -/
def exchangesAll : List Step → List Answer → List (Step × Answer)
  | x :: xs, a :: as => exchanges x a ++ exchangesAll xs as
  | _, _ => []
end

theorem core_of_not_isObserver {x : Step} (h : x.isObserver = false) : x.core = [x] := by
  cases x with
  | report | entityReport | reset | scope => cases h
  | _ => rfl

theorem exchanges_of_not_isObserver {x : Step} (h : x.isObserver = false) (a : Answer) :
    x.exchanges a = [(x, a)] := by
  cases x with
  | report | entityReport | reset | scope => cases h
  | _ => rfl

end Step

namespace Session

/-! ## One step -/

/-- Outcomes that differ in counters and scopes at most. -/
structure Agree (p q : Session × Answer) : Prop where
  drafts : p.1.drafts = q.1.drafts
  answer : p.2 = q.2

section Agree

variable {s t : Session} (h : s.drafts = t.drafts)

include h

theorem agree_withDraft (slot : String) {f g : Draft → Session × Answer} (hfg : ∀ d, Agree (f d) (g d)) :
    Agree (s.withDraft slot f) (t.withDraft slot g) := by
  unfold withDraft
  rw [h]
  cases t.drafts.get? slot with
  | none => exact ⟨h, rfl⟩
  | some d => exact hfg d

theorem agree_record (e : Event) (a : Answer) : Agree (s.record e, a) (t.record e, a) :=
  ⟨by rw [drafts_record, drafts_record, h], rfl⟩

theorem agree_insert (slot : String) (d : Draft) (a : Answer) :
    Agree ({ s with drafts := s.drafts.insert slot d }, a) ({ t with drafts := t.drafts.insert slot d }, a) :=
  ⟨congrArg (·.insert slot d) h, rfl⟩

/-- A step on drafts sees nothing but these. -/
theorem agree_run {x : Step} (hx : x.isObserver = false) : Agree (s.run x) (t.run x) := by
  cases x with
  | start slot entity => exact agree_insert h slot ⟨entity, {}⟩ .done
  | branch slot target =>
    refine agree_withDraft h slot ?_
    intro d
    exact agree_insert h target d .done
  | call slot c =>
    refine agree_withDraft h slot ?_
    intro d
    cases d.query.call c with
    | ok q => exact agree_insert h slot { d with query := q } (.query q)
    | error err => exact agree_record h _ (.failed err)
  | refused err => exact ⟨h, rfl⟩
  | inspect slot =>
    refine agree_withDraft h slot ?_
    intro d
    exact ⟨h, rfl⟩
  | compose slot limits =>
    refine agree_withDraft h slot ?_
    intro d
    cases d.query.parameterTexts d.entity limits with
    | ok ps => exact agree_record h _ (.text _)
    | error err => exact agree_record h _ (.failed err)
  | build slot limits =>
    refine agree_withDraft h slot ?_
    intro d
    split <;> exact ⟨h, rfl⟩
  | report | entityReport | reset | scope => cases hx

end Agree

/-! ## Runs -/

theorem runAll_cons (s : Session) (x : Step) (xs : List Step) :
    s.runAll (x :: xs) = (((s.run x).1.runAll xs).1, (s.run x).2 :: ((s.run x).1.runAll xs).2) := by
  rw [runAll]

theorem runAll_append (s : Session) (xs ys : List Step) :
    s.runAll (xs ++ ys) =
      (((s.runAll xs).1.runAll ys).1, (s.runAll xs).2 ++ ((s.runAll xs).1.runAll ys).2) := by
  induction xs generalizing s with
  | nil => rfl
  | cons x xs ih =>
    rw [List.cons_append, runAll_cons, ih, runAll_cons]
    rfl

theorem length_runAll (s : Session) (xs : List Step) : (s.runAll xs).2.length = xs.length := by
  induction xs generalizing s with
  | nil => rfl
  | cons x xs ih =>
    rw [runAll_cons, List.length_cons, List.length_cons, ih]

theorem run_core_of_not_isObserver {s t : Session} (h : s.drafts = t.drafts) {x : Step}
    (hx : x.isObserver = false) :
    (s.run x).1.drafts = (t.runAll x.core).1.drafts ∧
      x.exchanges (s.run x).2 = x.core.zip (t.runAll x.core).2 := by
  obtain ⟨hdrafts, hanswer⟩ := agree_run h hx
  rw [Step.core_of_not_isObserver hx, Step.exchanges_of_not_isObserver hx, hanswer]
  exact ⟨hdrafts, rfl⟩

mutual
theorem run_core {s t : Session} (h : s.drafts = t.drafts) :
    ∀ x : Step, (s.run x).1.drafts = (t.runAll x.core).1.drafts ∧
      x.exchanges (s.run x).2 = x.core.zip (t.runAll x.core).2
  | .scope steps => by
    obtain ⟨hdrafts, hanswers⟩ := runAll_core (s := s.openScope) (t := t) h steps
    rw [run, drafts_closeScope]
    exact ⟨hdrafts, hanswers⟩
  | .report | .entityReport _ | .reset => ⟨h, rfl⟩
  | .start _ _ | .branch _ _ | .call _ _ | .refused _ | .inspect _ | .compose _ _ | .build _ _ =>
    run_core_of_not_isObserver h rfl

/-- Steps on drafts run alike with their observers and without them. -/
theorem runAll_core {s t : Session} (h : s.drafts = t.drafts) :
    ∀ xs : List Step, (s.runAll xs).1.drafts = (t.runAll (Step.coreAll xs)).1.drafts ∧
      Step.exchangesAll xs (s.runAll xs).2 = (Step.coreAll xs).zip (t.runAll (Step.coreAll xs)).2
  | [] => ⟨h, rfl⟩
  | x :: xs => by
    obtain ⟨hdrafts, hexchanges⟩ := run_core h x
    obtain ⟨hdrafts', hexchanges'⟩ := runAll_core hdrafts xs
    rw [Step.coreAll, runAll_append, runAll_cons]
    refine ⟨hdrafts', ?_⟩
    rw [Step.exchangesAll, hexchanges, hexchanges', List.zip_append (length_runAll t x.core).symm]
end

/-- All steps on drafts are among the exchanges. -/
theorem map_fst_exchangesAll (s : Session) (xs : List Step) :
    (Step.exchangesAll xs (s.runAll xs).2).map Prod.fst = Step.coreAll xs := by
  rw [(runAll_core rfl xs).2, List.map_fst_zip (Nat.le_of_eq (length_runAll s _).symm)]

end Session

end TableQuery
