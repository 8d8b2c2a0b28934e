import TableQuery.QueryString
/-!
# Building queries

Calls that each change one part of a query. A call that fails leaves the query as it was.
-/

namespace TableQuery

inductive Call
  | filter (predicate : Expr)
  | orderBy (key : OrderKey)
  | thenBy (key : OrderKey)
  | select (fields : List String)
  | skip (n : Int)
  | take (n : Int)
  | totalCount (on : Bool)
  | deleted (on : Bool)
  | parameter (key value : String)

namespace Call

def orderByDirection (field : String) (d : Direction) : Call := orderBy ⟨field, d⟩

def thenByDirection (field : String) (d : Direction) : Call := thenBy ⟨field, d⟩

def orderByAsc (field : String) : Call := orderByDirection field .asc

def orderByDesc (field : String) : Call := orderByDirection field .desc

def thenByAsc (field : String) : Call := thenByDirection field .asc

def thenByDesc (field : String) : Call := thenByDirection field .desc

end Call

namespace Query

/-- Adds a condition to those that already hold, nesting to the left. -/
def addPredicate (q : Query) (x : Expr) : Except QueryError Query := do
  if !x.isBoolean then .error (.nonBoolean x.type)
  else
    match (do x.check; q.predicate.elim (.ok x) fun held => BinaryOp.apply (.logical .and) held x) with
    | .ok p => return { q with predicate := some p }
    | .error e => .error (.expr e)

def pageBound (bound : PageBound) (n : Int) : Except QueryError Nat :=
  if n < 0 then .error (.negativeBound bound n) else .ok n.toNat

/-- The query after a call. -/
def call (q : Query) : Call → Except QueryError Query
  | .filter x => q.addPredicate x
  | .orderBy k => .ok { q with order := [k] }
  | .thenBy k => .ok { q with order := q.order ++ [k] }
  | .select fields => .ok { q with selection := fields }
  | .skip n => do return { q with skip := some (← pageBound .skip n) }
  | .take n => do return { q with top := some (← pageBound .take n) }
  | .totalCount on => .ok { q with totalCount := on }
  | .deleted on => .ok { q with deleted := on }
  | .parameter key value =>
    if isReservedKey key then .error (.reservedParameter key)
    else .ok { q with parameters := q.parameters.insert key value }

end Query

end TableQuery
