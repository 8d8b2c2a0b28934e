import TableQuery.Expr.Build
import TableQuery.Filter
import TableQuery.Limits
import TableQuery.Query
import TableQuery.Assumed.Text.FormEncoding
/-!
# Query strings

The parameters of a query as the service reads them, in a fixed order. A query is written whole or
not at all.
-/

namespace TableQuery

/-- Which bound on the rows of a page. -/
inductive PageBound
  | skip
  | take
  deriving DecidableEq, Repr

inductive QueryError
  | expr (e : ExprError)
  | render (e : RenderError)
  | nonBoolean (found : ScalarType)
  | negativeBound (bound : PageBound) (n : Int)
  | reservedParameter (key : String)
  | tooManyOrderKeys (count max : Nat)
  | topExceeded (top max : Nat)
  deriving DecidableEq

def PageBound.name : PageBound → String
  | skip => "skip"
  | take => "take"

def QueryError.message : QueryError → String
  | expr e => e.message
  | render e => e.message
  | nonBoolean found => "filter predicate must be bool, found " ++ found.name
  | negativeBound bound n => bound.name ++ " must be non-negative, found " ++ toString n
  | reservedParameter key => "query parameter '" ++ key ++ "' is reserved or empty"
  | tooManyOrderKeys count max =>
    "ordering has " ++ toString count ++ " keys; the configured maximum is " ++ toString max
  | topExceeded top max =>
    "$top=" ++ toString top ++ " exceeds the configured maximum of " ++ toString max

/-- Parameters that the service gives a meaning to, in the order they are written. -/
inductive ServiceParameter
  | deleted
  | count
  | filter
  | orderBy
  | select
  | skip
  | top
  deriving DecidableEq, Repr

namespace ServiceParameter

def all : List ServiceParameter := [deleted, count, filter, orderBy, select, skip, top]

def name : ServiceParameter → String
  | deleted => "__includedeleted"
  | count => "$count"
  | filter => "$filter"
  | orderBy => "$orderby"
  | select => "$select"
  | skip => "$skip"
  | top => "$top"

/-- The parameter with a value, which stands as it is. -/
def assign (p : ServiceParameter) (value : String) : String := p.name ++ "=" ++ value

end ServiceParameter

/-- Keys the service keeps for itself, and the empty one. -/
def isReservedKey (key : String) : Bool :=
  match key.toList with
  | [] => true
  | '$' :: _ => true
  | '_' :: '_' :: _ => true
  | _ => false

theorem isReservedKey_iff {key : String} :
    isReservedKey key = true ↔ key = "" ∨ ['$'] <+: key.toList ∨ ['_', '_'] <+: key.toList := by
  rw [← String.toList_eq_nil_iff]
  unfold isReservedKey
  split
  · rename_i h
    simp [h]
  · rename_i h
    simp [h]
  · rename_i h
    simp [h]
  · rename_i hnil hdollar hunder
    simp only [Bool.false_eq_true, false_iff, not_or]
    refine ⟨hnil, ?_, ?_⟩
    · rintro ⟨rest, h⟩
      exact hdollar rest h.symm
    · rintro ⟨rest, h⟩
      exact hunder rest h.symm

namespace Query

/-! ## Parameters one by one -/

def flagParameters (q : Query) : List String :=
  (if q.deleted then [ServiceParameter.deleted.assign "true"] else []) ++
    (if q.totalCount then [ServiceParameter.count.assign "true"] else [])

def filterParameters (q : Query) (e : Entity) (limits : Limits) : Except QueryError (List String) :=
  match q.predicate with
  | none => .ok []
  | some x =>
    match Filter.render e limits.filterDepth x with
    | .ok text => .ok [ServiceParameter.filter.assign text]
    | .error err => .error (.render err)

/-- The service's name for a field, whatever its type. -/
def wireName (e : Entity) (field : String) : Except QueryError String :=
  match e.resolve field with
  | .ok f => .ok f.wireName
  | .error err => .error (.render err)

def orderKeyText (e : Entity) (k : OrderKey) : Except QueryError String := do
  let wire ← wireName e k.field
  return match k.direction with
    | .asc => wire
    | .desc => wire ++ " desc"

def orderParameters (q : Query) (e : Entity) (limits : Limits) : Except QueryError (List String) := do
  if q.order.isEmpty then return []
  else if limits.orderKeys < q.order.length then
    .error (.tooManyOrderKeys q.order.length limits.orderKeys)
  else
    let keys ← q.order.mapM (orderKeyText e)
    return [ServiceParameter.orderBy.assign (",".intercalate keys)]

def selectParameters (q : Query) (e : Entity) : Except QueryError (List String) := do
  if q.selection.isEmpty then return []
  else
    let fields ← q.selection.mapM (wireName e)
    return [ServiceParameter.select.assign (",".intercalate fields)]

def skipParameters (q : Query) : List String :=
  match q.skip with
  | none => []
  | some n => [ServiceParameter.skip.assign (toString n)]

def topParameters (q : Query) (limits : Limits) : Except QueryError (List String) :=
  match q.top with
  | none => .ok []
  | some n =>
    match limits.top with
    | some max =>
      if max < n then .error (.topExceeded n max) else .ok [ServiceParameter.top.assign (toString n)]
    | none => .ok [ServiceParameter.top.assign (toString n)]

def customParameter (entry : String × String) : Except QueryError String :=
  if isReservedKey entry.1 then .error (.reservedParameter entry.1)
  else .ok (FormEncoding.encode entry.1 ++ "=" ++ FormEncoding.encode entry.2)

/-- A predicate has to be one. -/
def checkPredicate (q : Query) : Except QueryError Unit :=
  match q.predicate with
  | some x => if x.isBoolean then .ok () else .error (.nonBoolean x.type)
  | none => .ok ()

/-! ## The whole query -/

/-- The parameters in the order they are written, or the first error on the way. -/
def parameterTexts (q : Query) (e : Entity) (limits : Limits) : Except QueryError (List String) := do
  q.checkPredicate
  let filter ← q.filterParameters e limits
  let order ← q.orderParameters e limits
  let select ← q.selectParameters e
  let top ← q.topParameters limits
  let custom ← q.parameters.entries.mapM customParameter
  return q.flagParameters ++ filter ++ order ++ select ++ q.skipParameters ++ top ++ custom

def compose (q : Query) (e : Entity) (limits : Limits) : Except QueryError String := do
  return "&".intercalate (← q.parameterTexts e limits)

end Query

end TableQuery
