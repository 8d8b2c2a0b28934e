/-!
# Scalar types

The types a table column can be declared with, and the static types of the nodes of a predicate.
`null` is the type of the bare `null` constant. A field can be declared with it too.
-/

namespace TableQuery

/-- Listed in the order of `ScalarType.rank`. -/
inductive ScalarType
  | null
  | bool
  | int
  | float32
  | float64
  | text
  | timestamp
  deriving DecidableEq, Repr

namespace ScalarType

def all : List ScalarType := [null, bool, int, float32, float64, text, timestamp]

/-- The name a type goes by in messages. -/
def name : ScalarType → String
  | null => "null"
  | bool => "bool"
  | int => "int"
  | float32 => "float32"
  | float64 => "float64"
  | text => "text"
  | timestamp => "timestamp"

def ofName? (s : String) : Option ScalarType := all.find? fun t => t.name == s

@[simp]
theorem ofName?_name (t : ScalarType) : ofName? t.name = some t := by cases t <;> decide

def rank : ScalarType → Nat
  | null => 0
  | bool => 1
  | int => 2
  | float32 => 3
  | float64 => 4
  | text => 5
  | timestamp => 6

instance : Ord ScalarType := ⟨fun a b => compare a.rank b.rank⟩

/-! ## Numeric types -/

/-- Numeric types by width. Every value of a narrower type converts to a wider one. -/
def width? : ScalarType → Option Nat
  | int => some 0
  | float32 => some 1
  | float64 => some 2
  | _ => none

def isNumeric (t : ScalarType) : Bool := t.width?.isSome

/-- The wider of two numeric types, none unless both are numeric. -/
def widest? (a b : ScalarType) : Option ScalarType :=
  match a.width?, b.width? with
  | some m, some n => some (if n ≤ m then a else b)
  | _, _ => none

theorem widest?_isSome (a b : ScalarType) :
    (a.widest? b).isSome = (a.isNumeric && b.isNumeric) := by cases a <;> cases b <;> rfl

/-- Types whose values `lt`, `le`, `gt` and `ge` can order. -/
def isOrderable (t : ScalarType) : Bool := t.isNumeric || t == text || t == timestamp

end ScalarType

end TableQuery
