import Mathlib.Data.List.Basic
import TableQuery.Proofs.FilterText
import TableQuery.QueryString
/-!
# What a query is composed of

Every part of a query that is written has a key, a value and possibly a fault, and none of these
depends on the other parts. Composition is the first fault, or else all keys with their values
(`parameterTexts_eq`).
-/

namespace TableQuery

namespace Query

/-! ## Faults -/

/-- A name that the entity lacks. -/
def nameFault? (e : Entity) (field : String) : Option QueryError :=
  match e.field? field with
  | some _ => none
  | none => some (.render (.unknownField e.name field))

def predicateFault? (q : Query) : Option QueryError :=
  q.predicate.bind fun x => if x.isBoolean then none else some (.nonBoolean x.type)

def filterFault? (q : Query) (e : Entity) (l : Limits) : Option QueryError :=
  q.predicate.bind fun x => (Filter.fault? e l.filterDepth 1 x).map .render

/-- The keys are counted before any of them is looked up. -/
def orderFault? (q : Query) (e : Entity) (l : Limits) : Option QueryError :=
  if l.orderKeys < q.order.length then some (.tooManyOrderKeys q.order.length l.orderKeys)
  else q.order.findSome? fun k => nameFault? e k.field

def selectFault? (q : Query) (e : Entity) : Option QueryError := q.selection.findSome? (nameFault? e)

def topFault? (q : Query) (l : Limits) : Option QueryError :=
  q.top.bind fun n => l.top.bind fun max => if max < n then some (.topExceeded n max) else none

def keyFault? (entry : String × String) : Option QueryError :=
  if isReservedKey entry.1 then some (.reservedParameter entry.1) else none

/-- The first fault, part by part in the order in which they are checked. -/
def fault? (q : Query) (e : Entity) (l : Limits) : Option QueryError :=
  q.predicateFault?.or <| (q.filterFault? e l).or <| (q.orderFault? e l).or <|
    (q.selectFault? e).or <| (q.topFault? l).or <| q.parameters.entries.findSome? keyFault?

/-! ## Keys and values -/

def orderText (e : Entity) (k : OrderKey) : String :=
  match k.direction with
  | .asc => Filter.wireText e k.field
  | .desc => Filter.wireText e k.field ++ " desc"

/-- The value of a parameter that the query sets. -/
def value? (q : Query) (e : Entity) : ServiceParameter → Option String
  | .deleted => if q.deleted then some "true" else none
  | .count => if q.totalCount then some "true" else none
  | .filter => q.predicate.map (Filter.text e)
  | .orderBy => if q.order = [] then none else some (",".intercalate (q.order.map (orderText e)))
  | .select =>
    if q.selection = [] then none else some (",".intercalate (q.selection.map (Filter.wireText e)))
  | .skip => q.skip.map toString
  | .top => q.top.map toString

/-- What the query asks of the service, by the service's own keys. -/
def servicePairs (q : Query) (e : Entity) : List (String × String) :=
  ServiceParameter.all.filterMap fun p => (q.value? e p).map (p.name, ·)

def encodedPair (entry : String × String) : String × String :=
  (FormEncoding.encode entry.1, FormEncoding.encode entry.2)

/-- All keys and values as they are written. -/
def pairs (q : Query) (e : Entity) : List (String × String) :=
  q.servicePairs e ++ q.parameters.entries.map encodedPair

def pairText (p : String × String) : String := p.1 ++ "=" ++ p.2

/-! ## Parts one by one -/

variable {q : Query} {e : Entity} {l : Limits}

theorem checkPredicate_eq (q : Query) : q.checkPredicate = outcome q.predicateFault? () := by
  unfold checkPredicate predicateFault?
  cases q.predicate with
  | none => rfl
  | some x => cases h : x.isBoolean <;> simp [h]

theorem filterParameters_eq (q : Query) (e : Entity) (l : Limits) :
    q.filterParameters e l =
      outcome (q.filterFault? e l) ((q.value? e .filter).map ServiceParameter.filter.assign).toList := by
  unfold filterParameters filterFault? value?
  cases q.predicate with
  | none => rfl
  | some x =>
    simp only [Filter.render_eq, Option.bind_some]
    cases Filter.fault? e l.filterDepth 1 x <;> rfl

theorem wireName_eq (e : Entity) (field : String) :
    wireName e field = outcome (nameFault? e field) (Filter.wireText e field) := by
  unfold wireName nameFault? Filter.wireText Entity.resolve
  cases e.field? field <;> rfl

theorem orderKeyText_eq (e : Entity) (k : OrderKey) :
    orderKeyText e k = outcome (nameFault? e k.field) (orderText e k) := by
  rw [orderKeyText, wireName_eq]
  unfold orderText
  cases k.direction <;> exact outcome_map _ _ _

theorem orderParameters_eq (q : Query) (e : Entity) (l : Limits) :
    q.orderParameters e l =
      outcome (q.orderFault? e l) ((q.value? e .orderBy).map ServiceParameter.orderBy.assign).toList := by
  unfold orderParameters orderFault? value?
  cases hq : q.order with
  | nil => rfl
  | cons k ks =>
    simp only [List.isEmpty_cons, if_neg (List.cons_ne_nil k ks)]
    by_cases hn : l.orderKeys < (k :: ks).length
    · rw [if_neg (by simp), if_pos hn, if_pos hn]
      rfl
    · rw [if_neg (by simp), if_neg hn, if_neg hn, mapM_eq_outcome (orderKeyText_eq e), outcome_map]
      rfl

theorem selectParameters_eq (q : Query) (e : Entity) :
    q.selectParameters e =
      outcome (q.selectFault? e) ((q.value? e .select).map ServiceParameter.select.assign).toList := by
  unfold selectParameters selectFault? value?
  cases hq : q.selection with
  | nil => rfl
  | cons f fs =>
    simp only [List.isEmpty_cons, if_neg (List.cons_ne_nil f fs)]
    rw [if_neg (by simp), mapM_eq_outcome (wireName_eq e), outcome_map]
    rfl

theorem topParameters_eq (q : Query) (e : Entity) (l : Limits) :
    q.topParameters l =
      outcome (q.topFault? l) ((q.value? e .top).map ServiceParameter.top.assign).toList := by
  unfold topParameters topFault? value?
  cases q.top with
  | none => rfl
  | some n =>
    cases l.top with
    | none => rfl
    | some max => by_cases h : max < n <;> simp [h]

theorem customParameter_eq (entry : String × String) :
    customParameter entry = outcome (keyFault? entry) (pairText (encodedPair entry)) := by
  unfold customParameter keyFault?
  split <;> rfl

theorem flagParameters_eq (q : Query) (e : Entity) :
    q.flagParameters =
      ((q.value? e .deleted).map ServiceParameter.deleted.assign).toList ++
        ((q.value? e .count).map ServiceParameter.count.assign).toList := by
  unfold flagParameters value?
  cases q.deleted <;> cases q.totalCount <;> rfl

theorem skipParameters_eq (q : Query) (e : Entity) :
    q.skipParameters = ((q.value? e .skip).map ServiceParameter.skip.assign).toList := by
  unfold skipParameters value?
  cases q.skip <;> rfl

/-! ## The whole query -/

theorem fault?_eq_none :
    q.fault? e l = none ↔
      q.predicateFault? = none ∧ q.filterFault? e l = none ∧ q.orderFault? e l = none ∧
        q.selectFault? e = none ∧ q.topFault? l = none ∧ q.parameters.entries.findSome? keyFault? = none := by
  simp only [fault?, Option.or_eq_none_iff]

theorem map_pairText_servicePairs (q : Query) (e : Entity) :
    (q.servicePairs e).map pairText =
      ServiceParameter.all.flatMap fun p => ((q.value? e p).map p.assign).toList := by
  rw [servicePairs, List.map_filterMap, List.filterMap_eq_flatMap_toList]
  apply List.flatMap_congr
  intro p _
  cases q.value? e p <;> rfl

/-- The first fault, or all pairs. -/
theorem parameterTexts_eq (q : Query) (e : Entity) (l : Limits) :
    q.parameterTexts e l = outcome (q.fault? e l) ((q.pairs e).map pairText) := by
  rw [parameterTexts, checkPredicate_eq, fault?]
  -- Each part comes after the faults of those before it.
  refine outcome_bind ?_
  rw [filterParameters_eq]
  refine outcome_bind ?_
  rw [orderParameters_eq]
  refine outcome_bind ?_
  rw [selectParameters_eq]
  refine outcome_bind ?_
  rw [topParameters_eq q e]
  refine outcome_bind ?_
  rw [mapM_eq_outcome customParameter_eq, outcome_map, pairs, List.map_append,
    map_pairText_servicePairs, flagParameters_eq q e, skipParameters_eq q e]
  simp [ServiceParameter.all, List.map_map, Function.comp_def]

theorem compose_eq (q : Query) (e : Entity) (l : Limits) :
    q.compose e l = outcome (q.fault? e l) ("&".intercalate ((q.pairs e).map pairText)) := by
  rw [compose, parameterTexts_eq, outcome_map]

theorem compose_eq_ok {s : String} :
    q.compose e l = .ok s ↔ q.fault? e l = none ∧ "&".intercalate ((q.pairs e).map pairText) = s := by
  rw [compose_eq, outcome_eq_ok]

theorem compose_eq_error {err : QueryError} :
    q.compose e l = .error err ↔ q.fault? e l = some err := by
  rw [compose_eq, outcome_eq_error]

end Query

end TableQuery
