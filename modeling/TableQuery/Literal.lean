import TableQuery.Quoted
import TableQuery.Value
/-!
# Literals

How constants are written in a filter, and which have no written form: floats that are not finite
and instants outside the years of four digits.
-/

namespace TableQuery

inductive LiteralError
  | nonFinite (shown : String)
  | yearOutOfRange (shown : String)
  deriving DecidableEq

def LiteralError.message : LiteralError → String
  | nonFinite shown => "non-finite floating point literal '" ++ shown ++ "' has no wire encoding"
  | yearOutOfRange shown => "timestamp '" ++ shown ++ "' is outside the four-digit year range"

/-- The digits of a float completed to have a point, so that they are not read as an integer. -/
def withPoint (digits : String) : String :=
  if digits.toList.contains '.' then digits else digits ++ ".0"

namespace Value

/-- Why a constant has no literal, if it has none. -/
def literalError? : Value → Option LiteralError
  | float32 x => if x.isFinite then none else some (.nonFinite x.shown)
  | float64 x => if x.isFinite then none else some (.nonFinite x.shown)
  | timestamp t => if 0 ≤ t.year ∧ t.year ≤ 9999 then none else some (.yearOutOfRange t.text)
  | _ => none

/-- The text of a constant that has a literal. Single floats are told from double ones by an `f`. -/
def literalText : Value → String
  | null => "null"
  | bool b => if b then "true" else "false"
  | int n => toString n.toInt
  | float32 x => withPoint x.shown ++ "f"
  | float64 x => withPoint x.shown
  | text s => String.ofList (Quoted.encode s.toList)
  | timestamp t => "cast(" ++ t.stamp ++ ",Edm.DateTimeOffset)"

def literal (v : Value) : Except LiteralError String :=
  match v.literalError? with
  | some e => .error e
  | none => .ok v.literalText

end Value

end TableQuery
