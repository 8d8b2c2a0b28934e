import TableQuery.Scalar
/-!
# Operators

The operators of a predicate, by the rule that types them, and how each is written.
-/

namespace TableQuery

inductive UnaryOp
  | not
  | negate
  deriving DecidableEq, Repr

inductive LogicalOp
  | and
  | or
  deriving DecidableEq, Repr

inductive ComparisonOp
  | eq
  | ne
  | lt
  | le
  | gt
  | ge
  deriving DecidableEq, Repr

inductive ArithmeticOp
  | add
  | sub
  | mul
  | div
  | mod
  deriving DecidableEq, Repr

inductive BinaryOp
  | logical (op : LogicalOp)
  | comparison (op : ComparisonOp)
  | arithmetic (op : ArithmeticOp)
  deriving DecidableEq, Repr

/-! ## Written form -/

/-- How an operator with one operand is written: `token(x)` or `tokenx`. -/
inductive UnaryForm
  | call (token : String)
  | sign (token : String)
  deriving DecidableEq, Repr

namespace UnaryForm

def token : UnaryForm → String
  | call t => t
  | sign t => t

end UnaryForm

namespace UnaryOp

def all : List UnaryOp := [not, negate]

def form : UnaryOp → UnaryForm
  | not => .call "not"
  | negate => .sign "-"

def token (op : UnaryOp) : String := op.form.token

end UnaryOp

def LogicalOp.token : LogicalOp → String
  | and => "and"
  | or => "or"

def ComparisonOp.token : ComparisonOp → String
  | eq => "eq"
  | ne => "ne"
  | lt => "lt"
  | le => "le"
  | gt => "gt"
  | ge => "ge"

def ArithmeticOp.token : ArithmeticOp → String
  | add => "add"
  | sub => "sub"
  | mul => "mul"
  | div => "div"
  | mod => "mod"

/-! ## Typing -/

/-- The type of the result, none if the operator refuses the operand. -/
def UnaryOp.resultType? : UnaryOp → ScalarType → Option ScalarType
  | not, t => if t = .bool then some .bool else none
  | negate, t => if t.isNumeric then some t else none

namespace ComparisonOp

def isEquality (op : ComparisonOp) : Bool := op == eq || op == ne

/-- Numbers compare with numbers and other values with those of their own type. `null` can only be
tested for equality, and not with itself. -/
def accepts (op : ComparisonOp) : ScalarType → ScalarType → Bool
  | .null, .null => false
  | .null, _ => op.isEquality
  | _, .null => op.isEquality
  | l, r => (l.isNumeric && r.isNumeric) || (l == r && (op.isEquality || l.isOrderable))

end ComparisonOp

namespace BinaryOp

def all : List BinaryOp :=
  [.logical .and, .logical .or, .comparison .eq, .comparison .ne, .comparison .lt, .comparison .le,
    .comparison .gt, .comparison .ge, .arithmetic .add, .arithmetic .sub, .arithmetic .mul,
    .arithmetic .div, .arithmetic .mod]

def token : BinaryOp → String
  | logical op => op.token
  | comparison op => op.token
  | arithmetic op => op.token

def ofToken? (s : String) : Option BinaryOp := all.find? fun op => op.token == s

@[simp]
theorem ofToken?_token (op : BinaryOp) : ofToken? op.token = some op := by
  cases op with
  | logical op => cases op <;> decide
  | comparison op => cases op <;> decide
  | arithmetic op => cases op <;> decide

def isLogical : BinaryOp → Bool
  | logical _ => true
  | _ => false

def isComparison : BinaryOp → Bool
  | comparison _ => true
  | _ => false

def isEquality : BinaryOp → Bool
  | comparison op => op.isEquality
  | _ => false

def isArithmetic : BinaryOp → Bool
  | arithmetic _ => true
  | _ => false

/-- The type of the result, none if the operator cannot combine the operands. Addition of two texts
is no operator but a function (`Function.concat`). -/
def resultType? (op : BinaryOp) (l r : ScalarType) : Option ScalarType :=
  match op with
  | logical _ => if l = .bool ∧ r = .bool then some .bool else none
  | comparison c => if c.accepts l r then some .bool else none
  | arithmetic _ => l.widest? r

end BinaryOp

end TableQuery
