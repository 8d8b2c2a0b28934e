import Mathlib.Data.List.Induction
import TableQuery.Proofs.Moves
import TableQuery.Proofs.Runs
/-!
# Queries as logs of calls

Each part of a query can be told from the calls that were made on it, without a look at the other parts and
at the order in which they were set. In a session, the calls behind a draft are those on the draft itself and,
up to where it was branched off, those behind the draft it comes from.
-/

namespace TableQuery

/-! ## What a call says of each part -/

namespace Call

def condition? : Call → Option Expr
  | filter x => if x.type = .bool then some x else none
  | _ => none

def orderKey? : Call → Option OrderKey
  | orderBy k => some k
  | _ => none

def thenKey? : Call → Option OrderKey
  | thenBy k => some k
  | _ => none

def fields? : Call → Option (List String)
  | select fields => some fields
  | _ => none

def skip? : Call → Option Nat
  | skip n => if n < 0 then none else some n.toNat
  | _ => none

def top? : Call → Option Nat
  | take n => if n < 0 then none else some n.toNat
  | _ => none

def totalCount? : Call → Option Bool
  | totalCount on => some on
  | _ => none

def deleted? : Call → Option Bool
  | deleted on => some on
  | _ => none

/-- The value given to a key, unless the key is the service's. -/
def value? (key : String) : Call → Option String
  | parameter k value => if k = key ∧ ¬isReservedKey k then some value else none
  | _ => none

/-- Calls that fail, whatever they are made on. -/
def Refused : Call → Prop
  | filter x => x.type ≠ .bool
  | skip n => n < 0
  | take n => n < 0
  | parameter key _ => key = "" ∨ ['$'] <+: key.toList ∨ ['_', '_'] <+: key.toList
  | _ => False

theorem refused_iff {c : Call} : c.Refused ↔ ∃ err, c.fault? = some err := by
  cases c with
  | filter x => by_cases h : x.type = .bool <;> simp [Refused, fault?, h]
  | skip n | take n => by_cases h : n < 0 <;> simp [Refused, fault?, h]
  | parameter key value =>
    rw [Refused, ← isReservedKey_iff]
    by_cases h : isReservedKey key = true <;> simp [fault?, h]
  | _ => simp [Refused, fault?]

end Call

namespace Query

/-! ## What calls say together -/

/-- The last of the values that calls give. -/
def last? {α : Type} (f : Call → Option α) (calls : List Call) : Option α := calls.reverse.findSome? f

theorem last?_concat {α : Type} (f : Call → Option α) (calls : List Call) (c : Call) :
    last? f (calls ++ [c]) = (f c).or (last? f calls) := by
  rw [last?, List.reverse_concat, findSome?_cons_or]
  rfl

/-- Conditions joined to the left. -/
def conjoin : List Expr → Option Expr
  | [] => none
  | x :: xs => some (xs.foldl (.binary (.logical .and) .bool) x)

theorem conjoin_concat (xs : List Expr) (x : Expr) : conjoin (xs ++ [x]) = some (conjunction (conjoin xs) x) := by
  cases xs with
  | nil => rfl
  | cons y ys =>
    rw [List.cons_append, conjoin, List.foldl_append]
    rfl

theorem type_conjoin {xs : List Expr} (h : ∀ x ∈ xs, x.type = .bool) {held : Expr}
    (hheld : conjoin xs = some held) : held.type = .bool := by
  rcases List.eq_nil_or_concat xs with rfl | ⟨ys, y, rfl⟩
  · cases hheld
  · rw [List.concat_eq_append, conjoin_concat] at hheld
    cases hheld
    cases conjoin ys with
    | none => exact h y (by simp)
    | some z => rfl

/-- The conditions of all calls together. -/
def condition (calls : List Call) : Option Expr := conjoin (calls.filterMap Call.condition?)

theorem condition_concat_of_some {calls : List Call} {c : Call} {x : Expr} (h : c.condition? = some x) :
    condition (calls ++ [c]) = some (conjunction (condition calls) x) := by
  rw [condition, List.filterMap_append, List.filterMap_cons_some h, List.filterMap_nil, conjoin_concat]
  rfl

theorem condition_concat_of_none {calls : List Call} {c : Call} (h : c.condition? = none) :
    condition (calls ++ [c]) = condition calls := by
  rw [condition, List.filterMap_append, List.filterMap_cons_none h, List.filterMap_nil, List.append_nil]
  rfl

/-- The calls after the last that set the order anew. -/
def sinceOrderBy (calls : List Call) : List Call :=
  (calls.reverse.takeWhile fun c => c.orderKey?.isNone).reverse

def ordering (calls : List Call) : List OrderKey :=
  (last? Call.orderKey? calls).toList ++ (sinceOrderBy calls).filterMap Call.thenKey?

theorem ordering_concat_of_some {calls : List Call} {c : Call} {k : OrderKey} (h : c.orderKey? = some k) :
    ordering (calls ++ [c]) = [k] := by
  simp [ordering, sinceOrderBy, last?_concat, h]

theorem ordering_concat_of_none {calls : List Call} {c : Call} (h : c.orderKey? = none) :
    ordering (calls ++ [c]) = ordering calls ++ c.thenKey?.toList := by
  cases ht : c.thenKey? <;> simp [ordering, sinceOrderBy, last?_concat, h, ht, List.filterMap_append]

/-- Every part of the query is what the calls say of it. -/
structure Reflects (q : Query) (calls : List Call) : Prop where
  predicate : q.predicate = condition calls
  order : q.order = ordering calls
  selection : q.selection = (last? Call.fields? calls).getD []
  skip : q.skip = last? Call.skip? calls
  top : q.top = last? Call.top? calls
  totalCount : q.totalCount = (last? Call.totalCount? calls).getD false
  deleted : q.deleted = (last? Call.deleted? calls).getD false
  parameters : ∀ key, q.parameters.get? key = last? (Call.value? key) calls

theorem reflects_empty : Reflects {} [] where
  predicate := rfl
  order := rfl
  selection := rfl
  skip := rfl
  top := rfl
  totalCount := rfl
  deleted := rfl
  parameters _ := rfl

/-- Calls leave no choice of the query. -/
theorem Reflects.unique {q r : Query} {calls : List Call} (hq : q.Reflects calls) (hr : r.Reflects calls) :
    q = r := by
  have hparameters : q.parameters = r.parameters := by
    apply SortedMap.ext_get?
    intro key
    rw [hq.parameters, hr.parameters]
  cases q
  cases r
  simp only [mk.injEq]
  exact ⟨hq.predicate.trans hr.predicate.symm, hq.order.trans hr.order.symm,
    hq.selection.trans hr.selection.symm, hq.skip.trans hr.skip.symm, hq.top.trans hr.top.symm,
    hq.totalCount.trans hr.totalCount.symm, hq.deleted.trans hr.deleted.symm, hparameters⟩

theorem Reflects.boolean {q : Query} {calls : List Call} (h : q.Reflects calls) :
    ∀ held, q.predicate = some held → held.type = .bool := by
  intro held hheld
  rw [h.predicate, condition] at hheld
  refine type_conjoin ?_ hheld
  intro x hx
  obtain ⟨c, -, hc⟩ := List.mem_filterMap.1 hx
  unfold Call.condition? at hc
  split at hc
  · split at hc
    · cases hc
      assumption
    · cases hc
  · cases hc

/-! ## One more call -/

/-- An accepted call changes the part it is about as its argument says. -/
theorem Reflects.changed {q : Query} {calls : List Call} (h : q.Reflects calls) {c : Call}
    (hc : c.fault? = none) : (q.changed c).Reflects (calls ++ [c]) where
  predicate := by
    cases c with
    | filter x =>
      have hx : x.type = .bool := by simpa [Call.fault?] using hc
      have hsome : (Call.filter x).condition? = some x := if_pos hx
      rw [condition_concat_of_some hsome, ← h.predicate]
      rfl
    | _ => exact h.predicate.trans (condition_concat_of_none rfl).symm
  order := by
    cases c with
    | orderBy k =>
      have hsome : (Call.orderBy k).orderKey? = some k := rfl
      rw [ordering_concat_of_some hsome]
      rfl
    | thenBy k =>
      have hnone : (Call.thenBy k).orderKey? = none := rfl
      rw [ordering_concat_of_none hnone, ← h.order]
      rfl
    | _ => exact h.order.trans ((ordering_concat_of_none rfl).trans (List.append_nil _)).symm
  selection := by
    rw [last?_concat]
    cases c with
    | select fields => rfl
    | _ => exact h.selection
  skip := by
    rw [last?_concat]
    cases c with
    | skip n =>
      have hn : ¬n < 0 := by simpa [Call.fault?] using hc
      rw [Call.skip?, if_neg hn]
      rfl
    | _ => exact h.skip
  top := by
    rw [last?_concat]
    cases c with
    | take n =>
      have hn : ¬n < 0 := by simpa [Call.fault?] using hc
      rw [Call.top?, if_neg hn]
      rfl
    | _ => exact h.top
  totalCount := by
    rw [last?_concat]
    cases c with
    | totalCount on => rfl
    | _ => exact h.totalCount
  deleted := by
    rw [last?_concat]
    cases c with
    | deleted on => rfl
    | _ => exact h.deleted
  parameters key := by
    rw [last?_concat]
    cases c with
    | parameter k value =>
      have hk : ¬isReservedKey k = true := by simpa [Call.fault?] using hc
      rw [Query.changed, SortedMap.get?_insert, h.parameters]
      by_cases heq : key = k
      · simp [Call.value?, heq, hk]
      · simp [Call.value?, heq, Ne.symm heq]
    | _ => exact h.parameters key

/-- A failing call says nothing of any part. -/
theorem silent_of_fault? {c : Call} {err : QueryError} (hc : c.fault? = some err) :
    c.condition? = none ∧ c.orderKey? = none ∧ c.thenKey? = none ∧ c.fields? = none ∧ c.skip? = none ∧
      c.top? = none ∧ c.totalCount? = none ∧ c.deleted? = none ∧ ∀ key, c.value? key = none := by
  cases c with
  | filter x =>
    have hx : x.type ≠ .bool ∧ QueryError.nonBoolean x.type = err := by simpa [Call.fault?] using hc
    exact ⟨if_neg hx.1, rfl, rfl, rfl, rfl, rfl, rfl, rfl, fun _ => rfl⟩
  | skip n =>
    have hn : n < 0 ∧ QueryError.negativeBound .skip n = err := by simpa [Call.fault?] using hc
    exact ⟨rfl, rfl, rfl, rfl, if_pos hn.1, rfl, rfl, rfl, fun _ => rfl⟩
  | take n =>
    have hn : n < 0 ∧ QueryError.negativeBound .take n = err := by simpa [Call.fault?] using hc
    exact ⟨rfl, rfl, rfl, rfl, rfl, if_pos hn.1, rfl, rfl, fun _ => rfl⟩
  | parameter k value =>
    have hk : isReservedKey k = true ∧ QueryError.reservedParameter k = err := by
      simpa [Call.fault?] using hc
    exact ⟨rfl, rfl, rfl, rfl, rfl, rfl, rfl, rfl, fun _ => if_neg fun h => h.2 hk.1⟩
  | _ => cases hc

theorem Reflects.refused {q : Query} {calls : List Call} (h : q.Reflects calls) {c : Call} {err : QueryError}
    (hc : c.fault? = some err) : q.Reflects (calls ++ [c]) := by
  obtain ⟨hcondition, horderKey, hthenKey, hfields, hskip, htop, htotalCount, hdeleted, hvalue⟩ :=
    silent_of_fault? hc
  exact {
    predicate := h.predicate.trans (condition_concat_of_none hcondition).symm
    order := by rw [ordering_concat_of_none horderKey, hthenKey]; simpa using h.order
    selection := by rw [last?_concat, hfields]; exact h.selection
    skip := by rw [last?_concat, hskip]; exact h.skip
    top := by rw [last?_concat, htop]; exact h.top
    totalCount := by rw [last?_concat, htotalCount]; exact h.totalCount
    deleted := by rw [last?_concat, hdeleted]; exact h.deleted
    parameters := fun key => by rw [last?_concat, hvalue]; exact h.parameters key }

/-- Every part of a query is what all calls say of it, those that failed included. -/
theorem reflects_after (calls : List Call) : (({} : Query).after calls).Reflects calls := by
  induction calls using List.reverseRecOn with
  | nil => exact reflects_empty
  | append_singleton calls c ih =>
    rw [after_append, after, call_eq ih.boolean]
    cases hc : c.fault? with
    | none => exact ih.changed hc
    | some err => exact ih.refused hc

end Query

/-! ## Drafts -/

/-- The calls on a draft, after those behind the draft that it was branched off. The latest move comes first. -/
def Move.callsBehind (slot : String) : List Move → Option (List Call)
  | [] => none
  | .step (.start target _) _ :: earlier => if target = slot then some [] else callsBehind slot earlier
  | .step (.branch origin target) _ :: earlier =>
    if target = slot then (callsBehind origin earlier).or (callsBehind slot earlier)
    else callsBehind slot earlier
  | .step (.call target c) _ :: earlier =>
    if target = slot then (callsBehind slot earlier).map (· ++ [c]) else callsBehind slot earlier
  | _ :: earlier => callsBehind slot earlier

namespace Session

def query? (s : Session) (slot : String) : Option Query := (s.drafts.get? slot).map Draft.query

theorem drafts_compose (s : Session) (slot : String) (limits : Limits) :
    (s.run (.compose slot limits)).1.drafts = s.drafts := by
  cases h : s.drafts.get? slot with
  | none => rw [run_compose_of_none h]
  | some d =>
    rcases run_compose_of_some h limits with ⟨ps, -, hrun⟩ | ⟨err, -, hrun⟩
    · rw [hrun, drafts_record]
    · rw [hrun, reject, drafts_record]

theorem query?_start (s : Session) (target slot : String) (entity : Entity) :
    (s.run (.start target entity)).1.query? slot = if target = slot then some {} else s.query? slot := by
  rw [run, query?, SortedMap.get?_insert]
  by_cases h : target = slot
  · rw [if_pos h, if_pos h.symm]
    rfl
  · rw [if_neg h, if_neg (Ne.symm h)]
    rfl

theorem query?_branch (s : Session) (origin target slot : String) :
    (s.run (.branch origin target)).1.query? slot =
      if target = slot then (s.query? origin).or (s.query? slot) else s.query? slot := by
  rw [run, withDraft]
  cases h : s.drafts.get? origin with
  | none => simp [query?, h]
  | some d =>
    simp only [query?, h, SortedMap.get?_insert]
    by_cases heq : target = slot
    · simp [heq]
    · simp [heq, Ne.symm heq]

theorem query?_call (s : Session) (target slot : String) (c : Call) :
    (s.run (.call target c)).1.query? slot =
      if target = slot then (s.query? slot).map fun q => q.after [c] else s.query? slot := by
  cases hd : s.drafts.get? target with
  | none =>
    rw [run_call_of_none hd]
    split
    · rename_i heq
      rw [← heq, query?, hd]
      rfl
    · rfl
  | some d =>
    rcases run_call_of_some hd c with ⟨q, hcall, hrun⟩ | ⟨err, hcall, hrun⟩
    · rw [hrun, query?, SortedMap.get?_insert]
      by_cases heq : target = slot
      · subst heq
        simp [query?, hd, Query.after, hcall]
      · simp [query?, heq, Ne.symm heq]
    · rw [hrun, reject, query?, drafts_record]
      split
      · rename_i heq
        subst heq
        simp [query?, hd, Query.after, hcall]
      · rfl

/-- Each draft holds the query that the calls behind it make. -/
theorem query?_after (moves : List Move) (slot : String) :
    (({} : Session).after moves).query? slot = (Move.callsBehind slot moves.reverse).map ({} : Query).after := by
  -- The hypothesis has to hold of all slots, since a branch fills its target from another one.
  induction moves using List.reverseRecOn generalizing slot with
  | nil => rfl
  | append_singleton moves m ih =>
    rw [after_concat, List.reverse_concat]
    cases m with
    | enter => exact ih slot
    | leave =>
      refine Eq.trans ?_ (ih slot)
      rw [move, query?, drafts_closeScope]
      rfl
    | step x plain =>
      cases x with
      | start target entity =>
        rw [move, query?_start, ih, Move.callsBehind]
        split <;> rfl
      | branch origin target =>
        rw [move, query?_branch, ih, ih, Move.callsBehind]
        split
        · rw [Option.map_or]
        · rfl
      | call target c =>
        rw [move, query?_call, ih, Move.callsBehind]
        split
        · rw [Option.map_map, Option.map_map]
          congr 1
          funext calls
          exact (Query.after_append {} calls [c]).symm
        · rfl
      | inspect target =>
        rw [move, run_inspect]
        exact ih slot
      | compose target limits =>
        refine Eq.trans ?_ (ih slot)
        rw [move, query?, drafts_compose]
        rfl
      | build target limits =>
        rw [move, run_build]
        exact ih slot
      | refused err => exact ih slot
      | report => exact ih slot
      | entityReport name => exact ih slot
      | reset => exact ih slot
      | scope steps => cases plain

example (e : Entity) (c later : Call) :
    Move.callsBehind "copy"
      [.step (.call "first" later) rfl, .step (.branch "first" "copy") rfl, .step (.call "first" c) rfl,
        .step (.start "first" e) rfl] = some [c] := rfl

theorem call_of_draft {s : Session} {slot : String} {d : Draft} (h : s.drafts.get? slot = some d)
    (hd : ∀ held, d.query.predicate = some held → held.type = .bool) (c : Call) :
    ((∃ err, (s.run (.call slot c)).2 = .failed err) ↔ c.Refused) ∧
      (c.Refused → (s.run (.call slot c)).1.drafts = s.drafts) := by
  rw [Call.refused_iff]
  rcases run_call_of_some h c with ⟨q, hcall, hrun⟩ | ⟨err, hcall, hrun⟩
  · have hfault := ((Query.call_eq_ok hd).1 hcall).1
    simp [hrun, hfault]
  · have hfault := (Query.call_eq_error hd).1 hcall
    simp [hrun, hfault, reject, drafts_record]

/-- After any moves a draft is what the calls behind it say, part by part, and no other query is. The next
call on it fails by its argument alone, and then changes no draft. -/
theorem drafts_reflect (moves : List Move) (slot : String) :
    let s := ({} : Session).after moves
    (∀ steps, Step.allMoves steps = moves → (({} : Session).runAll steps).1 = s) ∧
      ((s.drafts.get? slot).isSome ↔ (Move.callsBehind slot moves.reverse).isSome) ∧
      ∀ d, s.drafts.get? slot = some d →
        ∃ calls, Move.callsBehind slot moves.reverse = some calls ∧
          (∀ q : Query, q.Reflects calls ↔ q = d.query) ∧
          ∀ c, ((∃ err, (s.run (.call slot c)).2 = .failed err) ↔ c.Refused) ∧
            (c.Refused → (s.run (.call slot c)).1.drafts = s.drafts) := by
  intro s
  have hquery : s.query? slot = (Move.callsBehind slot moves.reverse).map ({} : Query).after :=
    query?_after moves slot
  refine ⟨?_, ?_, ?_⟩
  · rintro steps rfl
    exact runAll_eq_after {} steps
  · have hsome := congrArg Option.isSome hquery
    rw [query?, Option.isSome_map, Option.isSome_map] at hsome
    rw [hsome]
  · intro d hd
    rw [query?, hd] at hquery
    obtain ⟨calls, hcalls, heq⟩ := Option.map_eq_some_iff.1 hquery.symm
    have hreflects : d.query.Reflects calls := heq ▸ Query.reflects_after calls
    refine ⟨calls, hcalls, ?_, call_of_draft hd hreflects.boolean⟩
    intro q
    constructor
    · intro hq
      exact hq.unique hreflects
    · rintro rfl
      exact hreflects

end Session

end TableQuery
