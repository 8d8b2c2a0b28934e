import TableQuery.Number.BinaryFloat
import TableQuery.Scalar
import TableQuery.Assumed.Time.Instant
/-!
# Constants

The constants a predicate can compare with, and their conversion to wider numeric types.
-/

namespace TableQuery

inductive Value
  | null
  | bool (b : Bool)
  | int (n : Int64)
  | float32 (x : BinaryFloat .single)
  | float64 (x : BinaryFloat .double)
  | text (s : String)
  | timestamp (t : Instant)
  deriving DecidableEq

namespace Value

def type : Value → ScalarType
  | null => .null
  | bool _ => .bool
  | int _ => .int
  | float32 _ => .float32
  | float64 _ => .float64
  | text _ => .text
  | timestamp _ => .timestamp

def isNull (v : Value) : Bool := v.type == .null

/-- Values of one type that compare equal. Floats compare as numbers. -/
def equal : Value → Value → Bool
  | null, null => true
  | bool a, bool b => a == b
  | int a, int b => a == b
  | float32 a, float32 b => a.equal b
  | float64 a, float64 b => a.equal b
  | text a, text b => a == b
  | timestamp a, timestamp b => a == b
  | _, _ => false

/-- The number in a wider type, rounded to nearest. Anything else stays as it is. -/
def widen : Value → ScalarType → Value
  | int n, .float32 => float32 (.ofInt n.toInt)
  | int n, .float64 => float64 (.ofInt n.toInt)
  | float32 x, .float64 => float64 x.convert
  | v, _ => v

/-! ## Dates and times -/

/-- The instant at which a clock `offset` seconds ahead of UTC shows `t`. -/
def ofDateTime (t : LocalTime) (offset : Int) : Value := timestamp (t.toInstant offset)

/-- A time without an offset is read as UTC. -/
def ofNaive (t : LocalTime) : Value := ofDateTime t 0

/-- A date stands for its midnight in UTC. -/
def ofDate (d : Date) : Value := ofNaive d.midnight

end Value

end TableQuery
