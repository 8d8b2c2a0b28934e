import Mathlib.Data.List.Induction
import TableQuery.Proofs.Counters
import TableQuery.Proofs.Moves
import TableQuery.Proofs.Requirements
/-!
# Accounts of a session

A step records one event for a query that it composes and one for an error that a draft gives, and nothing
else. After any moves the counters stand at the totals over the events that no scope has captured since the
last reset.
-/

namespace TableQuery

/-- How many scopes are open after moves, of which the latest comes first. -/
def Move.depth : List Move → Nat
  | [] => 0
  | .enter :: earlier => depth earlier + 1
  | .leave :: earlier => depth earlier - 1
  | .step _ _ :: earlier => depth earlier

namespace Session

/-! ## What a step records -/

/-- The events that a step owes for its answer: one for a query composed, one for an error. -/
def owed (s : Session) (x : Step) : List Event :=
  match x, (s.run x).2 with
  | .compose slot limits, .text _ =>
    (s.drafts.get? slot).toList.map fun d =>
      .composed d.entity.name (d.query.segments d.entity limits).length
        (d.query.predicate.elim 0 Expr.nodeCount)
  | .compose slot _, .failed err | .call slot _, .failed err =>
    (s.drafts.get? slot).toList.map fun d => .rejected d.entity.name err.failure.kind
  | _, _ => []

def recordAll (s : Session) (events : List Event) : Session := events.foldl record s

/-- What is owed for a draft in a slot: one event for a query composed or refused, one for a call that fails,
none for a call that does not. -/
structure Accounts (s : Session) (slot : String) (d : Draft) : Prop where
  compose : ∀ limits,
    ((s.run (.compose slot limits)).2 = .text ("&".intercalate (d.query.segments d.entity limits)) ∧
        s.owed (.compose slot limits) =
          [.composed d.entity.name (d.query.segments d.entity limits).length
            (d.query.predicate.elim 0 Expr.nodeCount)]) ∨
      ∃ err, (s.run (.compose slot limits)).2 = .failed err ∧
        s.owed (.compose slot limits) = [.rejected d.entity.name err.failure.kind]
  call : ∀ c,
    (∃ q, (s.run (.call slot c)).2 = .query q ∧ s.owed (.call slot c) = []) ∨
      ∃ err, (s.run (.call slot c)).2 = .failed err ∧
        s.owed (.call slot c) = [.rejected d.entity.name err.failure.kind]

theorem accounts_of_draft {s : Session} {slot : String} {d : Draft} (h : s.drafts.get? slot = some d) :
    s.Accounts slot d where
  compose limits := by
    rcases run_compose_of_some h limits with ⟨ps, htexts, hrun⟩ | ⟨err, -, hrun⟩
    · obtain ⟨-, rfl⟩ := Query.parameterTexts_eq_ok.1 htexts
      exact .inl (by simp [owed, hrun, h])
    · exact .inr ⟨err, by simp [owed, hrun, h, reject]⟩
  call c := by
    rcases run_call_of_some h c with ⟨q, -, hrun⟩ | ⟨err, -, hrun⟩
    · exact .inl ⟨q, by simp [owed, hrun]⟩
    · exact .inr ⟨err, by simp [owed, hrun, h, reject]⟩

/-- A step records what it owes. Apart from that it changes drafts only, unless it resets the counters. -/
theorem run_eq_recordAll {s : Session} {x : Step} (plain : x.isPlain = true) (hreset : x ≠ .reset) :
    (s.run x).1 = { s.recordAll (s.owed x) with drafts := (s.run x).1.drafts } := by
  cases x with
  | compose slot limits =>
    cases hd : s.drafts.get? slot with
    | none => simp [owed, run_compose_of_none hd, recordAll]
    | some d =>
      rcases run_compose_of_some hd limits with ⟨ps, htexts, hrun⟩ | ⟨err, -, hrun⟩
      · obtain ⟨-, rfl⟩ := Query.parameterTexts_eq_ok.1 htexts
        simp [owed, hrun, hd, recordAll]
      · simp [owed, hrun, hd, recordAll, reject, QueryError.failure]
  | call slot c =>
    cases hd : s.drafts.get? slot with
    | none => simp [owed, run_call_of_none hd, recordAll]
    | some d =>
      rcases run_call_of_some hd c with ⟨q, -, hrun⟩ | ⟨err, -, hrun⟩
      · simp [owed, hrun, recordAll]
      · simp [owed, hrun, hd, recordAll, reject, QueryError.failure]
  | branch slot target =>
    cases hd : s.drafts.get? slot <;> simp [owed, run, withDraft, hd, recordAll]
  | inspect slot =>
    rw [run_inspect]
    rfl
  | build slot limits =>
    rw [run_build]
    rfl
  | reset => exact absurd rfl hreset
  | scope steps => cases plain
  | _ => rfl

/-! ## Where events go -/

theorem record_of_nil {s : Session} (h : s.scopes = []) (e : Event) :
    s.record e = { s with metrics := s.metrics.add e } := by
  rw [record, h]

theorem metrics_recordAll_of_nil {s : Session} (h : s.scopes = []) (events : List Event) :
    (s.recordAll events).metrics = events.foldl Metrics.add s.metrics := by
  induction events generalizing s with
  | nil => rfl
  | cons e events ih =>
    have hrecord := record_of_nil h e
    rw [recordAll, List.foldl_cons, ← recordAll, ih (hrecord ▸ h), hrecord, List.foldl_cons]

theorem length_scopes_record (s : Session) (e : Event) : (s.record e).scopes.length = s.scopes.length := by
  unfold record
  split
  · rfl
  · rename_i hscopes
    simp [hscopes]

theorem length_scopes_recordAll (s : Session) (events : List Event) :
    (s.recordAll events).scopes.length = s.scopes.length := by
  induction events generalizing s with
  | nil => rfl
  | cons e events ih => exact (ih (s.record e)).trans (length_scopes_record s e)

/-- Scopes keep events from the counters. -/
theorem metrics_recordAll_of_ne_nil {s : Session} (h : s.scopes ≠ []) (events : List Event) :
    (s.recordAll events).metrics = s.metrics := by
  induction events generalizing s with
  | nil => rfl
  | cons e events ih =>
    have hlength := length_scopes_record s e
    have hne : (s.record e).scopes ≠ [] := by
      rw [← List.length_pos_iff_ne_nil, hlength]
      exact List.length_pos_iff.2 h
    refine (ih hne).trans ?_
    unfold record
    split
    · rename_i hnil
      exact absurd hnil h
    · rfl

/-- The events that no scope has captured since the last reset. The latest move comes first. -/
def delivered : List Move → List Event
  | [] => []
  | .step .reset _ :: _ => []
  | .step x _ :: earlier =>
    if Move.depth earlier = 0 then delivered earlier ++ (({} : Session).after earlier.reverse).owed x
    else delivered earlier
  | _ :: earlier => delivered earlier

theorem delivered_step {x : Step} {plain : x.isPlain = true} (hreset : x ≠ .reset) (earlier : List Move) :
    delivered (.step x plain :: earlier) =
      if Move.depth earlier = 0 then delivered earlier ++ (({} : Session).after earlier.reverse).owed x
      else delivered earlier := by
  rw [delivered]
  exact hreset

/-! ## Any moves -/

theorem length_scopes_after (moves : List Move) :
    (({} : Session).after moves).scopes.length = Move.depth moves.reverse := by
  induction moves using List.reverseRecOn with
  | nil => rfl
  | append_singleton moves m ih =>
    rw [after_concat, List.reverse_concat]
    cases m with
    | enter => exact congrArg (· + 1) ih
    | leave =>
      rw [Move.depth, ← ih, move, closeScope]
      split
      · rename_i hnil
        simp [hnil]
      · rename_i hscopes
        simp [hscopes]
    | step x plain =>
      by_cases hreset : x = .reset
      · subst hreset
        exact ih
      · rw [move, run_eq_recordAll plain hreset, length_scopes_recordAll]
        exact ih

theorem counts_after (moves : List Move) :
    (({} : Session).after moves).metrics.Counts (delivered moves.reverse) := by
  induction moves using List.reverseRecOn with
  | nil => exact Metrics.counts_empty
  | append_singleton moves m ih =>
    rw [after_concat, List.reverse_concat]
    cases m with
    | enter => exact ih
    | leave =>
      rw [move, closeScope]
      split
      · exact ih
      · exact ih
    | step x plain =>
      by_cases hreset : x = .reset
      · subst hreset
        exact Metrics.counts_empty
      · have hlength := length_scopes_after moves
        rw [move, run_eq_recordAll plain hreset, delivered_step hreset, List.reverse_reverse]
        split
        · rename_i hdepth
          rw [metrics_recordAll_of_nil (List.length_eq_zero_iff.1 (hlength.trans hdepth))]
          exact ih.addAll _
        · rename_i hdepth
          rw [metrics_recordAll_of_ne_nil]
          · exact ih
          · rw [← List.length_pos_iff_ne_nil, hlength]
            exact Nat.pos_of_ne_zero hdepth

/-- At every point of a session a step records what it owes and does no more to the counters. They stand at
the totals over the events that reached them since the last reset, and those of the entities add up to those
of all while none of them has stopped. -/
theorem counters_after (moves : List Move) :
    let s := ({} : Session).after moves
    let events := delivered moves.reverse
    (∀ steps, Step.allMoves steps = moves → (({} : Session).runAll steps).1 = s) ∧
      (∀ x : Step, x.isPlain = true → x ≠ .reset →
        (s.run x).1 = { s.recordAll (s.owed x) with drafts := (s.run x).1.drafts }) ∧
      (∀ slot d, s.drafts.get? slot = some d → s.Accounts slot d) ∧
      s.metrics.Counts events ∧
      (Metrics.Unsaturated events → s.metrics.Balanced) := by
  intro s events
  have hcounts : s.metrics.Counts events := counts_after moves
  refine ⟨?_, ?_, ?_, hcounts, hcounts.balanced⟩
  · rintro steps rfl
    exact runAll_eq_after {} steps
  · intro x plain hreset
    exact run_eq_recordAll plain hreset
  · intro slot d h
    exact accounts_of_draft h

end Session

end TableQuery
