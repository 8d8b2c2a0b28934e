import TableQuery.Scalar
/-!
# Functions

The functions a predicate can call: their names, the arguments they take and the type they return.
-/

namespace TableQuery

inductive Function
  | endsWith
  | startsWith
  | contains
  | indexOf
  | substring
  | concat
  | toLower
  | toUpper
  | trim
  | length
  | day
  | month
  | year
  | round
  | ceiling
  | floor
  deriving DecidableEq, Repr

/-- What a parameter accepts. -/
inductive ParamKind
  | text
  | int
  | numeric
  | timestamp
  deriving DecidableEq, Repr

namespace ParamKind

def all : List ParamKind := [text, int, numeric, timestamp]

def name : ParamKind → String
  | text => "text"
  | int => "int"
  | numeric => "numeric"
  | timestamp => "timestamp"

def accepts : ParamKind → ScalarType → Bool
  | text, t => t == .text
  | int, t => t == .int
  | numeric, t => t.isNumeric
  | timestamp, t => t == .timestamp

end ParamKind

inductive ReturnKind
  | fixed (type : ScalarType)
  /-- Single precision stays single, any other number becomes double. -/
  | rounded
  deriving DecidableEq, Repr

/-- The type returned when the first argument has type `first`. -/
def ReturnKind.resolve : ReturnKind → ScalarType → ScalarType
  | fixed t, _ => t
  | rounded, first => if first = .float32 then .float32 else .float64

structure Signature where
  params : List ParamKind
  /-- How many of the parameters must be given. -/
  required : Nat
  returns : ReturnKind
  deriving DecidableEq, Repr

namespace Function

def all : List Function :=
  [endsWith, startsWith, contains, indexOf, substring, concat, toLower, toUpper, trim, length, day,
    month, year, round, ceiling, floor]

def name : Function → String
  | endsWith => "endswith"
  | startsWith => "startswith"
  | contains => "contains"
  | indexOf => "indexof"
  | substring => "substring"
  | concat => "concat"
  | toLower => "tolower"
  | toUpper => "toupper"
  | trim => "trim"
  | length => "length"
  | day => "day"
  | month => "month"
  | year => "year"
  | round => "round"
  | ceiling => "ceiling"
  | floor => "floor"

def ofName? (s : String) : Option Function := all.find? fun f => f.name == s

@[simp]
theorem ofName?_name (f : Function) : ofName? f.name = some f := by cases f <;> decide

def signature : Function → Signature
  | endsWith | startsWith | contains => ⟨[.text, .text], 2, .fixed .bool⟩
  | indexOf => ⟨[.text, .text], 2, .fixed .int⟩
  | substring => ⟨[.text, .int, .int], 2, .fixed .text⟩
  | concat => ⟨[.text, .text], 2, .fixed .text⟩
  | toLower | toUpper | trim => ⟨[.text], 1, .fixed .text⟩
  | length => ⟨[.text], 1, .fixed .int⟩
  | day | month | year => ⟨[.timestamp], 1, .fixed .int⟩
  | round | ceiling | floor => ⟨[.numeric], 1, .rounded⟩

end Function

end TableQuery
