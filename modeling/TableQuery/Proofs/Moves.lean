import TableQuery.Session
/-!
# Sessions move by move

A run of steps, told without nesting: a scope opens, what is inside it follows, and the scope closes. Every
point of a run, also inside its scopes, comes after some of its moves, and the run ends after all of them
(`runAll_eq_after`).
-/

namespace TableQuery

/-- Anything but a scope. -/
def Step.isPlain : Step → Bool
  | .scope _ => false
  | _ => true

inductive Move
  | step (x : Step) (plain : x.isPlain = true)
  | enter
  | leave

namespace Step

mutual
def moves : Step → List Move
  | scope steps => .enter :: (allMoves steps ++ [.leave])
  | start slot entity => [.step (start slot entity) rfl]
  | branch slot target => [.step (branch slot target) rfl]
  | call slot c => [.step (call slot c) rfl]
  | refused err => [.step (refused err) rfl]
  | inspect slot => [.step (inspect slot) rfl]
  | compose slot limits => [.step (compose slot limits) rfl]
  | build slot limits => [.step (build slot limits) rfl]
  | report => [.step report rfl]
  | entityReport name => [.step (entityReport name) rfl]
  | reset => [.step reset rfl]

/-- The moves of steps in order. -/
def allMoves : List Step → List Move
  | [] => []
  | x :: xs => moves x ++ allMoves xs
end

end Step

namespace Session

/-! ## What steps do -/

theorem drafts_record (s : Session) (e : Event) : (s.record e).drafts = s.drafts := by
  unfold record
  split <;> rfl

theorem drafts_closeScope (s : Session) : s.closeScope.1.drafts = s.drafts := by
  unfold closeScope
  split <;> rfl

theorem run_inspect (s : Session) (slot : String) : (s.run (.inspect slot)).1 = s := by
  rw [run, withDraft]
  split <;> rfl

theorem run_build (s : Session) (slot : String) (limits : Limits) : (s.run (.build slot limits)).1 = s := by
  rw [run, build, withDraft]
  cases s.drafts.get? slot with
  | none => rfl
  | some d =>
    simp only
    split <;> rfl

section Draft

variable {s : Session} {slot : String}

theorem run_call_of_none (h : s.drafts.get? slot = none) (c : Call) :
    s.run (.call slot c) = (s, .noDraft slot) := by
  rw [run, call, withDraft, h]

theorem run_compose_of_none (h : s.drafts.get? slot = none) (limits : Limits) :
    s.run (.compose slot limits) = (s, .noDraft slot) := by
  rw [run, compose, withDraft, h]

theorem run_call_of_some {d : Draft} (h : s.drafts.get? slot = some d) (c : Call) :
    (∃ q, d.query.call c = .ok q ∧ s.run (.call slot c) =
        ({ s with drafts := s.drafts.insert slot { d with query := q } }, .query q)) ∨
      ∃ err, d.query.call c = .error err ∧ s.run (.call slot c) = s.reject d err := by
  rw [run, call, withDraft, h]
  cases hcall : d.query.call c with
  | ok q => exact .inl ⟨q, rfl, by simp [hcall]⟩
  | error err => exact .inr ⟨err, rfl, by simp [hcall]⟩

theorem run_compose_of_some {d : Draft} (h : s.drafts.get? slot = some d) (limits : Limits) :
    (∃ ps, d.query.parameterTexts d.entity limits = .ok ps ∧ s.run (.compose slot limits) =
        (s.record (.composed d.entity.name ps.length (d.query.predicate.elim 0 Expr.nodeCount)),
          .text ("&".intercalate ps))) ∨
      ∃ err, d.query.parameterTexts d.entity limits = .error err ∧
        s.run (.compose slot limits) = s.reject d err := by
  rw [run, compose, withDraft, h]
  cases htexts : d.query.parameterTexts d.entity limits with
  | ok ps => exact .inl ⟨ps, rfl, by simp [htexts]⟩
  | error err => exact .inr ⟨err, rfl, by simp [htexts]⟩

end Draft

/-! ## Moves -/

def move (s : Session) : Move → Session
  | .step x _ => (s.run x).1
  | .enter => s.openScope
  | .leave => s.closeScope.1

/-- The session after moves. -/
def after (s : Session) (moves : List Move) : Session := moves.foldl move s

@[simp]
theorem after_cons (s : Session) (m : Move) (ms : List Move) : s.after (m :: ms) = (s.move m).after ms := rfl

theorem after_append (s : Session) (ms ns : List Move) : s.after (ms ++ ns) = (s.after ms).after ns := by
  rw [after, List.foldl_append]
  rfl

theorem after_concat (s : Session) (ms : List Move) (m : Move) : s.after (ms ++ [m]) = (s.after ms).move m := by
  rw [after_append]
  rfl

mutual
theorem run_eq_after (s : Session) : ∀ x : Step, (s.run x).1 = s.after x.moves
  | .scope steps => by
    rw [run, Step.moves, after_cons, after_concat, move, ← runAll_eq_after]
    rfl
  | .start _ _ | .branch _ _ | .call _ _ | .refused _ | .inspect _ | .compose _ _ | .build _ _ | .report
  | .entityReport _ | .reset => rfl

/-- A run ends after all its moves. -/
theorem runAll_eq_after (s : Session) : ∀ xs : List Step, (s.runAll xs).1 = s.after (Step.allMoves xs)
  | [] => rfl
  | x :: xs => by
    rw [runAll, Step.allMoves, after_append, ← run_eq_after, ← runAll_eq_after]
end

end Session

end TableQuery
