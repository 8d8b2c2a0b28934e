import TableQuery.Expr.Basic
import TableQuery.SortedMap
/-!
# Queries

What a query asks for, by the caller's names for fields. Nothing is written yet.
-/

namespace TableQuery

inductive Direction
  | asc
  | desc
  deriving DecidableEq, Repr

namespace Direction

instance : Inhabited Direction := ⟨asc⟩

def name : Direction → String
  | asc => "asc"
  | desc => "desc"

end Direction

structure OrderKey where
  field : String
  direction : Direction
  deriving DecidableEq, Repr

structure Query where
  predicate : Option Expr := none
  /-- Keys by precedence. -/
  order : List OrderKey := []
  /-- The fields to return, all of them if none is named. -/
  selection : List String := []
  skip : Option Nat := none
  top : Option Nat := none
  totalCount : Bool := false
  deleted : Bool := false
  /-- Parameters of the caller's own. -/
  parameters : SortedMap String := .empty

end TableQuery
