import TableQuery.Proofs.Composition
import TableQuery.Proofs.FormDecoding
/-!
# What a query has to keep

A query of any origin is composed just when it keeps every requirement, and then its parameters are written
out segment by segment. Otherwise the error is that of the first check it fails.
-/

namespace TableQuery

namespace Query

/-- What is asked of a query. -/
structure Composable (q : Query) (e : Entity) (l : Limits) : Prop where
  predicate : ∀ x, q.predicate = some x → x.type = .bool
  filter : ∀ x, q.predicate = some x → ∃ text, Filter.render e l.filterDepth x = .ok text
  order : q.order = [] ∨
    q.order.length ≤ l.orderKeys ∧ ∀ k ∈ q.order, ∃ f, e.field? k.field = some f
  selection : ∀ name ∈ q.selection, ∃ f, e.field? name = some f
  top : ∀ n max, q.top = some n → l.top = some max → n ≤ max
  parameters : ∀ a ∈ q.parameters.entries,
    a.1 ≠ "" ∧ ¬['$'] <+: a.1.toList ∧ ¬['_', '_'] <+: a.1.toList

/-- The predicate as it is rendered, if there is one. -/
def rendered? (q : Query) (e : Entity) (l : Limits) : Option (Except RenderError String) :=
  q.predicate.map (Filter.render e l.filterDepth)

/-- The parameters as they are written, each of them only where the query sets it. Those of the caller's own
are written byte by byte. -/
def segments (q : Query) (e : Entity) (l : Limits) : List String :=
  (if q.deleted then ["__includedeleted=true"] else []) ++
    (if q.totalCount then ["$count=true"] else []) ++
    (match q.rendered? e l with
      | some (.ok text) => ["$filter=" ++ text]
      | _ => []) ++
    (if q.order = [] then [] else ["$orderby=" ++ ",".intercalate (q.order.map (orderText e))]) ++
    (if q.selection = [] then [] else ["$select=" ++ ",".intercalate (q.selection.map (Filter.wireText e))]) ++
    (q.skip.map fun n => "$skip=" ++ toString n).toList ++
    (q.top.map fun n => "$top=" ++ toString n).toList ++
    q.parameters.entries.map fun a => FormEncoding.formText a.1 ++ "=" ++ FormEncoding.formText a.2

def renderFault? (q : Query) (e : Entity) (l : Limits) : Option QueryError :=
  match q.rendered? e l with
  | some (.error err) => some (.render err)
  | _ => none

def countFault? (q : Query) (l : Limits) : Option QueryError :=
  if l.orderKeys < q.order.length then some (.tooManyOrderKeys q.order.length l.orderKeys) else none

/-- The errors of all checks that the query fails, in the order of the checks. -/
def faults (q : Query) (e : Entity) (l : Limits) : List QueryError :=
  q.predicateFault?.toList ++ (q.renderFault? e l).toList ++ (q.countFault? l).toList ++
    (q.order.filterMap fun k => nameFault? e k.field) ++ q.selection.filterMap (nameFault? e) ++
    (q.topFault? l).toList ++ q.parameters.entries.filterMap keyFault?

variable {q : Query} {e : Entity} {l : Limits}

/-! ## Requirements kept -/

theorem predicateFault?_eq_none :
    q.predicateFault? = none ↔ ∀ x, q.predicate = some x → x.type = .bool := by
  unfold predicateFault?
  cases q.predicate with
  | none => simp
  | some x => by_cases hx : x.type = .bool <;> simp [Expr.isBoolean, hx]

theorem filterFault?_eq_none :
    q.filterFault? e l = none ↔
      ∀ x, q.predicate = some x → ∃ text, Filter.render e l.filterDepth x = .ok text := by
  unfold filterFault?
  cases q.predicate with
  | none => simp
  | some x => simp [Filter.render_eq_ok]

theorem nameFault?_eq_none {name : String} :
    nameFault? e name = none ↔ ∃ f, e.field? name = some f := by
  unfold nameFault?
  cases e.field? name <;> simp

theorem orderFault?_eq_none :
    q.orderFault? e l = none ↔
      q.order = [] ∨ q.order.length ≤ l.orderKeys ∧ ∀ k ∈ q.order, ∃ f, e.field? k.field = some f := by
  unfold orderFault?
  by_cases hlen : l.orderKeys < q.order.length
  · have hne : q.order ≠ [] := List.ne_nil_of_length_pos (by omega)
    have hnot : ¬q.order.length ≤ l.orderKeys := by omega
    simp [hlen, hne, hnot]
  · have hle : q.order.length ≤ l.orderKeys := by omega
    simp only [if_neg hlen, List.findSome?_eq_none_iff, nameFault?_eq_none, hle, true_and]
    constructor
    · exact .inr
    · rintro (hnil | h)
      · simp [hnil]
      · exact h

theorem selectFault?_eq_none :
    q.selectFault? e = none ↔ ∀ name ∈ q.selection, ∃ f, e.field? name = some f := by
  simp only [selectFault?, List.findSome?_eq_none_iff, nameFault?_eq_none]

theorem topFault?_eq_none :
    q.topFault? l = none ↔ ∀ n max, q.top = some n → l.top = some max → n ≤ max := by
  unfold topFault?
  cases q.top with
  | none => simp
  | some n => cases l.top <;> simp

theorem keyFaults_eq_none :
    q.parameters.entries.findSome? keyFault? = none ↔
      ∀ a ∈ q.parameters.entries, a.1 ≠ "" ∧ ¬['$'] <+: a.1.toList ∧ ¬['_', '_'] <+: a.1.toList := by
  simp only [List.findSome?_eq_none_iff, keyFault?, isReservedKey_iff, ite_eq_right_iff, reduceCtorEq,
    imp_false, not_or, ne_eq]

theorem fault?_eq_none_iff_composable : q.fault? e l = none ↔ q.Composable e l := by
  rw [fault?_eq_none, predicateFault?_eq_none, filterFault?_eq_none, orderFault?_eq_none,
    selectFault?_eq_none, topFault?_eq_none, keyFaults_eq_none]
  constructor
  · rintro ⟨predicate, filter, order, selection, top, parameters⟩
    exact ⟨predicate, filter, order, selection, top, parameters⟩
  · rintro ⟨predicate, filter, order, selection, top, parameters⟩
    exact ⟨predicate, filter, order, selection, top, parameters⟩

/-! ## Requirements not kept -/

theorem renderFault?_eq (q : Query) (e : Entity) (l : Limits) : q.renderFault? e l = q.filterFault? e l := by
  unfold renderFault? rendered? filterFault?
  cases q.predicate with
  | none => rfl
  | some x =>
    simp only [Option.map_some, Filter.render_eq, Option.bind_some]
    cases Filter.fault? e l.filterDepth 1 x <;> rfl

theorem orderFault?_eq (q : Query) (e : Entity) (l : Limits) :
    q.orderFault? e l = (q.countFault? l).or (q.order.findSome? fun k => nameFault? e k.field) := by
  unfold orderFault? countFault?
  split <;> rfl

/-- The first of the faults is the one that stops composition. -/
theorem head?_faults (q : Query) (e : Entity) (l : Limits) : (q.faults e l).head? = q.fault? e l := by
  simp only [faults, fault?, List.head?_append, Option.head?_toList, List.head?_filterMap, renderFault?_eq,
    orderFault?_eq, selectFault?, Option.or_assoc]

/-! ## Segments -/

theorem filterSegment_eq (h : q.filterFault? e l = none) :
    ((q.value? e .filter).map ServiceParameter.filter.assign).toList =
      match q.rendered? e l with
      | some (.ok text) => ["$filter=" ++ text]
      | _ => [] := by
  unfold value? rendered?
  cases hp : q.predicate with
  | none => rfl
  | some x =>
    obtain ⟨text, htext⟩ := filterFault?_eq_none.1 h x hp
    have heq := (Filter.render_eq_ok.1 htext).2
    simp [htext, heq, ServiceParameter.assign, ServiceParameter.name]

theorem orderSegment_eq (q : Query) (e : Entity) :
    ((q.value? e .orderBy).map ServiceParameter.orderBy.assign).toList =
      if q.order = [] then [] else ["$orderby=" ++ ",".intercalate (q.order.map (orderText e))] := by
  by_cases h : q.order = [] <;> simp [value?, h, ServiceParameter.assign, ServiceParameter.name]

theorem selectSegment_eq (q : Query) (e : Entity) :
    ((q.value? e .select).map ServiceParameter.select.assign).toList =
      if q.selection = [] then []
      else ["$select=" ++ ",".intercalate (q.selection.map (Filter.wireText e))] := by
  by_cases h : q.selection = [] <;> simp [value?, h, ServiceParameter.assign, ServiceParameter.name]

theorem pairTexts_eq_segments (h : q.filterFault? e l = none) :
    (q.pairs e).map pairText = q.segments e l := by
  have hflags : ((q.value? e .deleted).map ServiceParameter.deleted.assign).toList ++
      ((q.value? e .count).map ServiceParameter.count.assign).toList =
      (if q.deleted then ["__includedeleted=true"] else []) ++
        (if q.totalCount then ["$count=true"] else []) := by
    unfold value?
    cases q.deleted <;> cases q.totalCount <;> rfl
  have hskip : ((q.value? e .skip).map ServiceParameter.skip.assign).toList =
      (q.skip.map fun n => "$skip=" ++ toString n).toList := by
    unfold value?
    cases q.skip <;> rfl
  have htop : ((q.value? e .top).map ServiceParameter.top.assign).toList =
      (q.top.map fun n => "$top=" ++ toString n).toList := by
    unfold value?
    cases q.top <;> rfl
  rw [pairs, List.map_append, map_pairText_servicePairs, segments, ← hflags, ← filterSegment_eq h,
    ← orderSegment_eq, ← selectSegment_eq, ← hskip, ← htop, List.map_map]
  simp only [ServiceParameter.all, List.flatMap_cons, List.flatMap_nil, List.append_nil, List.append_assoc,
    ← FormEncoding.encode_eq_formText]
  rfl

/-! ## Composition -/

theorem parameterTexts_eq_ok {ps : List String} :
    q.parameterTexts e l = .ok ps ↔ q.Composable e l ∧ ps = q.segments e l := by
  rw [parameterTexts_eq, outcome_eq_ok, fault?_eq_none_iff_composable]
  refine and_congr_right fun h => ?_
  rw [pairTexts_eq_segments (filterFault?_eq_none.2 h.filter), eq_comm]

/-- A query is composed just when it keeps every requirement, into its segments. Otherwise it fails with the
first of its faults. The parameters of the caller's own stand in the order of the bytes of their keys. -/
theorem segments_or_first_fault (q : Query) (e : Entity) (l : Limits) :
    (∀ ps, q.parameterTexts e l = .ok ps ↔ q.Composable e l ∧ ps = q.segments e l) ∧
      (∀ err, q.parameterTexts e l = .error err ↔ (q.faults e l).head? = some err) ∧
      (q.parameters.entries.map fun a => utf8Bytes a.1).Pairwise (· < ·) := by
  refine ⟨?_, ?_, ?_⟩
  · intro ps
    exact parameterTexts_eq_ok
  · intro err
    rw [parameterTexts_eq, outcome_eq_error, head?_faults]
  · refine List.pairwise_map.2 (q.parameters.sorted.imp ?_)
    intro a b hab
    exact utf8Bytes_lt hab

end Query

end TableQuery
