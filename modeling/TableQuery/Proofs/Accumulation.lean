import Mathlib.Algebra.Ring.Nat
import Mathlib.Data.List.Forall2
import Mathlib.Data.List.Induction
import TableQuery.Proofs.Handles
import TableQuery.Proofs.Offences
/-!
# Conditions that accumulate

Conditions are joined to the left, so each one pushes all before it a level deeper. What they come to in nodes,
in depth and in text follows from the conditions one by one, and as many of them as a limit allows levels are too
many together, whatever they are.
-/

namespace TableQuery

/-- The condition that a call adds. -/
def Call.filtered? : Call → Option Expr
  | filter x => some x
  | _ => none

namespace Expr

/-- Conditions joined to the left, the first standing deepest. -/
def joined (p : Expr) (ps : List Expr) : Expr := ps.foldl (.binary (.logical .and) .bool) p

/-- How deep conditions joined to the left go: the first has all joints above it, and each other one the joint it
came with and those of the conditions after it. -/
def joinedDepth (p : Expr) (ps : List Expr) : Nat :=
  (ps.zipIdx.map fun a => a.1.depth + (ps.length - a.2)).foldr max (p.depth + ps.length)

/-- The texts of conditions joined to the left. All parentheses open before the first of them. -/
def joinedText (t : String) (ts : List String) : String :=
  String.ofList (List.replicate ts.length '(') ++ t ++ String.join (ts.map fun s => " and " ++ s ++ ")")

theorem joined_cons (p x : Expr) (xs : List Expr) :
    joined p (x :: xs) = joined (.binary (.logical .and) .bool p x) xs := rfl

theorem joined_concat (p x : Expr) (xs : List Expr) :
    joined p (xs ++ [x]) = .binary (.logical .and) .bool (joined p xs) x := by
  rw [joined, List.foldl_append]
  rfl

/-! ## Size and text -/

theorem nodeCount_joined (p : Expr) (ps : List Expr) :
    (joined p ps).nodeCount = ((p :: ps).map nodeCount).sum + ps.length := by
  induction ps generalizing p with
  | nil => simp [joined]
  | cons x xs ih =>
    rw [joined_cons, ih]
    simp only [List.map_cons, List.sum_cons, List.length_cons, nodeCount]
    omega

theorem depth_joined (p : Expr) (ps : List Expr) : (joined p ps).depth = joinedDepth p ps := by
  induction ps generalizing p with
  | nil => simp [joined, joinedDepth]
  | cons x xs ih =>
    have hroot : (Expr.binary (.logical .and) .bool p x).depth + xs.length =
        max (p.depth + (xs.length + 1)) (x.depth + (xs.length + 1)) := by
      rw [depth]
      omega
    have htail : (xs.zipIdx 1).map (fun a => a.1.depth + (xs.length + 1 - a.2)) =
        xs.zipIdx.map fun a => a.1.depth + (xs.length - a.2) := by
      rw [List.zipIdx_succ, List.map_map]
      simp [Function.comp_def]
    -- One joint more stands above the conditions so far, and the others keep theirs.
    rw [joined_cons, ih, joinedDepth, hroot, List.foldr_assoc, joinedDepth, List.zipIdx_cons, List.map_cons,
      List.foldr_cons, List.length_cons, htail, Nat.max_comm]
    rfl

example (a b c : Expr) : a.joinedDepth [b, c] = max (b.depth + 2) (max (c.depth + 1) (a.depth + 2)) := rfl

/-- No condition alone is deeper than all of them joined. -/
theorem depth_le_of_mem {p c : Expr} {ps : List Expr} (hc : c ∈ p :: ps) : c.depth ≤ (joined p ps).depth := by
  induction ps generalizing p c with
  | nil =>
    obtain rfl := List.mem_singleton.1 hc
    exact Nat.le_refl _
  | cons x xs ih =>
    have hjoint := ih (p := .binary (.logical .and) .bool p x) List.mem_cons_self
    rw [depth] at hjoint
    rcases List.mem_cons.1 hc with rfl | hc
    · exact Nat.le_trans (by omega) hjoint
    · rcases List.mem_cons.1 hc with rfl | hc
      · exact Nat.le_trans (by omega) hjoint
      · exact ih (List.mem_cons_of_mem _ hc)

theorem text_joined (e : Entity) (p : Expr) (ps : List Expr) :
    Filter.text e (joined p ps) = joinedText (Filter.text e p) (ps.map (Filter.text e)) := by
  induction ps generalizing p with
  | nil => simp [joined, joinedText]
  | cons x xs ih =>
    rw [joined_cons, ih, Filter.text]
    simp [joinedText, List.replicate_succ', String.ofList_append, String.append_assoc, BinaryOp.token,
      LogicalOp.token]

/-- Every joint is one that can be built. -/
theorem foldlM_and {p : Expr} {ps : List Expr} (hp : p.type = .bool) (hps : ∀ x ∈ ps, x.type = .bool) :
    ps.foldlM (BinaryOp.logical .and).apply p = .ok (joined p ps) := by
  induction ps generalizing p with
  | nil => rfl
  | cons x xs ih =>
    obtain ⟨hx, hxs⟩ := List.forall_mem_cons.1 hps
    rw [List.foldlM_cons, Query.apply_and hp hx (Query.encodable_of_bool hp) (Query.encodable_of_bool hx)]
    exact ih rfl hxs

theorem type_joined {p : Expr} {ps : List Expr} (hp : p.type = .bool) : (joined p ps).type = .bool := by
  rcases List.eq_nil_or_concat ps with rfl | ⟨xs, x, rfl⟩
  · exact hp
  · rw [List.concat_eq_append, joined_concat]
    rfl

/-! ## Rendering -/

theorem every_joined {q : Expr → Prop} (hand : ∀ l r, q (.binary (.logical .and) .bool l r)) {p : Expr}
    {ps : List Expr} (hp : p.Every q) (hps : ∀ x ∈ ps, x.Every q) : (joined p ps).Every q := by
  induction ps generalizing p with
  | nil => exact hp
  | cons x xs ih =>
    obtain ⟨hx, hxs⟩ := List.forall_mem_cons.1 hps
    exact ih (every_binary.2 ⟨hand p x, hp, hx⟩) hxs

/-- The joints alone exceed a limit, or the first condition does where it starts. -/
theorem fault?_joined {e : Entity} {max d : Nat} {p : Expr} {ps : List Expr} (h : max < d + ps.length) :
    Filter.fault? e max d (joined p ps) = some (.tooDeep max) := by
  induction ps using List.reverseRecOn generalizing d with
  | nil =>
    have hd : max < d := h
    rw [joined, List.foldl_nil, Filter.fault?_eq, Filter.placedFault?, if_pos hd, Option.some_or]
  | append_singleton xs x ih =>
    rw [List.length_append, List.length_singleton] at h
    have hjoint : Filter.placedFault? e max (d, .binary (.logical .and) .bool (joined p xs) x) =
        if max < d then some (.tooDeep max) else none := rfl
    have hleft := ih (d := d + 1) (by omega)
    rw [joined_concat, Filter.fault?_eq, hjoint, operands, findSome?_cons_or, hleft, Option.some_or]
    split <;> rfl

end Expr

namespace Query

/-! ## Runs of calls -/

theorem boolean_changed {q : Query} (hq : ∀ held, q.predicate = some held → held.type = .bool) {c : Call}
    (hc : c.fault? = none) : ∀ held, (q.changed c).predicate = some held → held.type = .bool := by
  cases c with
  | filter x =>
    have hx : x.type = .bool := by simpa [Call.fault?] using hc
    rintro held ⟨⟩
    cases q.predicate with
    | none => exact hx
    | some h => rfl
  | _ => exact hq

/-- The predicate is what was held before, with the conditions of all accepted calls joined to it. -/
theorem predicate_after {q : Query} (hq : ∀ held, q.predicate = some held → held.type = .bool)
    (calls : List Call) :
    (q.after calls).predicate =
      ((q.accepted calls).filterMap Call.filtered?).foldl (fun held? x => some (conjunction held? x)) q.predicate ∧
      ∀ x ∈ (q.accepted calls).filterMap Call.filtered?, x.type = .bool := by
  induction calls generalizing q with
  | nil => exact ⟨rfl, by simp [accepted]⟩
  | cons c cs ih =>
    rw [after, accepted]
    cases h : q.call c with
    | error err => exact ih hq
    | ok r =>
      obtain ⟨hfault, rfl⟩ := (call_eq_ok hq).1 h
      obtain ⟨hpredicate, htypes⟩ := ih (boolean_changed hq hfault)
      cases c with
      | filter x =>
        have hx : x.type = .bool := by simpa [Call.fault?] using hfault
        exact ⟨hpredicate, List.forall_mem_cons.2 ⟨hx, htypes⟩⟩
      | _ => exact ⟨hpredicate, htypes⟩

theorem foldl_conjunction (p : Expr) (ps : List Expr) :
    ps.foldl (fun held? x => some (conjunction held? x)) (some p) = some (p.joined ps) := by
  induction ps generalizing p with
  | nil => rfl
  | cons x xs ih => exact ih _

/-! ## Composition -/

/-- Too many conditions for a limit stop the query before any of their fields is looked up. -/
theorem compose_of_joined {q : Query} {p : Expr} {ps : List Expr} (hx : q.predicate = some (p.joined ps))
    (htype : (p.joined ps).type = .bool) (e : Entity) {l : Limits} (h : l.filterDepth < (p :: ps).length) :
    q.compose e l = .error (.render (.tooDeep l.filterDepth)) := by
  have hfault : Filter.fault? e l.filterDepth 1 (p.joined ps) = some (.tooDeep l.filterDepth) := by
    apply Expr.fault?_joined
    rw [List.length_cons] at h
    omega
  apply compose_eq_error.2
  rw [fault?, predicateFault?, filterFault?, hx, Option.bind_some, Option.bind_some, Expr.isBoolean, htype,
    hfault]
  rfl

/-- Where all leaves are acceptable, conditions joined have a text when each has one as deep as it stands. -/
theorem render_joined {e : Entity} {max : Nat} {p : Expr} {ps : List Expr}
    (hleaves : ∀ c ∈ p :: ps, ∀ y : Expr, y.Within c → Filter.Acceptable e y) :
    ((∃ s, Filter.render e max (p.joined ps) = .ok s) ↔ p.joinedDepth ps ≤ max) ∧
      ∀ s, Filter.render e max (p.joined ps) = .ok s →
        ∃ t ts, List.Forall₂ (fun c u => Filter.render e max c = .ok u) (p :: ps) (t :: ts) ∧
          s = Expr.joinedText t ts := by
  have hevery : ∀ c ∈ p :: ps, c.Every fun y => Filter.nodeFault? e y = none := by
    intro c hc y hy
    exact Filter.nodeFault?_eq_none.2 (hleaves c hc y hy)
  obtain ⟨hp, hps⟩ := List.forall_mem_cons.1 hevery
  have hok : (∃ s, Filter.render e max (p.joined ps) = .ok s) ↔ p.joinedDepth ps ≤ max := by
    simp only [Filter.render_eq_ok, exists_and_left, exists_eq', and_true]
    rw [Filter.fault?_of_every (Expr.every_joined (fun l r => rfl) hp hps), Expr.depth_joined]
    split
    · exact iff_of_true rfl (by omega)
    · exact iff_of_false (by simp) (by omega)
  refine ⟨hok, ?_⟩
  intro s hs
  have hdepth := hok.1 ⟨s, hs⟩
  refine ⟨Filter.text e p, ps.map (Filter.text e), ?_, ?_⟩
  · -- Each condition alone is no deeper than it stands among the others.
    rw [← List.map_cons, List.forall₂_map_right_iff, List.forall₂_same]
    intro c hc
    have hc' := Expr.depth_joined p ps ▸ Expr.depth_le_of_mem hc
    refine Filter.render_eq_ok.2 ⟨?_, rfl⟩
    rw [Filter.fault?_of_every (hevery c hc), if_pos (by omega)]
  · rw [← (Filter.render_eq_ok.1 hs).2, Expr.text_joined]

/-- Conditions that calls add to a query without one come to a tree of joints to the left, which has the nodes of
all of them and a joint for each but the first, and is as deep as they stand in it. -/
theorem accumulated_conditions {q : Query} (hq : q.predicate = none) {calls : List Call} {p : Expr}
    {ps : List Expr} (hps : (q.accepted calls).filterMap Call.filtered? = p :: ps) :
    ∃ x, (q.after calls).predicate = some x ∧ ps.foldlM (BinaryOp.logical .and).apply p = .ok x ∧
      x.nodeCount = ((p :: ps).map Expr.nodeCount).sum + ps.length ∧ x.depth = p.joinedDepth ps ∧
      (∀ e l, l.filterDepth < (p :: ps).length →
        (q.after calls).compose e l = .error (.render (.tooDeep l.filterDepth))) ∧
      ∀ e max, (∀ c ∈ p :: ps, ∀ y : Expr, y.Within c → Filter.Acceptable e y) →
        ((∃ s, Filter.render e max x = .ok s) ↔ p.joinedDepth ps ≤ max) ∧
          ∀ s, Filter.render e max x = .ok s →
            ∃ t ts, List.Forall₂ (fun c u => Filter.render e max c = .ok u) (p :: ps) (t :: ts) ∧
              s = Expr.joinedText t ts := by
  have hnone : ∀ held, q.predicate = some held → held.type = .bool := by simp [hq]
  obtain ⟨hpredicate, htypes⟩ := predicate_after hnone calls
  rw [hps] at htypes
  obtain ⟨hp, htail⟩ := List.forall_mem_cons.1 htypes
  rw [hps, hq, List.foldl_cons, conjunction, Option.elim_none, foldl_conjunction] at hpredicate
  refine ⟨p.joined ps, hpredicate, Expr.foldlM_and hp htail, Expr.nodeCount_joined p ps,
    Expr.depth_joined p ps, ?_, ?_⟩
  · intro e l h
    exact compose_of_joined hpredicate (Expr.type_joined hp) e h
  · intro e max hleaves
    exact render_joined hleaves

/-- Two conditions, with a field that the entity lacks, among calls of which two fail. They take one level more
than the limit. -/
theorem accumulated_conditions_shallow :
    let q : Query := { top := some 5 }
    let seen : Expr := .field "seen" .bool
    let lost : Expr := .unary .not .bool (.field "lost" .bool)
    let calls : List Call :=
      [.filter seen, .filter (.const (.int 3)), .skip (-1), .orderBy ⟨"seen", .asc⟩, .filter lost]
    q.predicate = none ∧ (q.accepted calls).filterMap Call.filtered? = [seen, lost] ∧
      seen.joinedDepth [lost] = 3 ∧
      (q.after calls).compose ⟨"film", []⟩ ⟨1, 0, none⟩ = .error (.render (.tooDeep 1)) := by
  intro q seen lost calls
  have hps : (q.accepted calls).filterMap Call.filtered? = [seen, lost] := by rfl
  obtain ⟨x, -, -, -, -, hdeep, -⟩ := accumulated_conditions (q := q) rfl hps
  exact ⟨rfl, hps, rfl, hdeep ⟨"film", []⟩ ⟨1, 0, none⟩ (by decide)⟩

end Query

end TableQuery
