import TableQuery.Expr.Build
/-!
# Methods

Operators and functions as methods of their first operand. Each is one of the three applications at
its own operator or function, so it checks and types what those check and type.
-/

namespace TableQuery.Expr

/-! ## Comparison -/

def eq (x y : Expr) : Except ExprError Expr := BinaryOp.apply (.comparison .eq) x y

def ne (x y : Expr) : Except ExprError Expr := BinaryOp.apply (.comparison .ne) x y

def lt (x y : Expr) : Except ExprError Expr := BinaryOp.apply (.comparison .lt) x y

def lte (x y : Expr) : Except ExprError Expr := BinaryOp.apply (.comparison .le) x y

def gt (x y : Expr) : Except ExprError Expr := BinaryOp.apply (.comparison .gt) x y

def gte (x y : Expr) : Except ExprError Expr := BinaryOp.apply (.comparison .ge) x y

def isNull (x : Expr) : Except ExprError Expr := x.eq (const .null)

def isNotNull (x : Expr) : Except ExprError Expr := x.ne (const .null)

/-! ## Logic and arithmetic -/

def and (x y : Expr) : Except ExprError Expr := BinaryOp.apply (.logical .and) x y

def or (x y : Expr) : Except ExprError Expr := BinaryOp.apply (.logical .or) x y

def not (x : Expr) : Except ExprError Expr := UnaryOp.not.apply x

def neg (x : Expr) : Except ExprError Expr := UnaryOp.negate.apply x

def add (x y : Expr) : Except ExprError Expr := BinaryOp.apply (.arithmetic .add) x y

def sub (x y : Expr) : Except ExprError Expr := BinaryOp.apply (.arithmetic .sub) x y

def mul (x y : Expr) : Except ExprError Expr := BinaryOp.apply (.arithmetic .mul) x y

def div (x y : Expr) : Except ExprError Expr := BinaryOp.apply (.arithmetic .div) x y

/-- The remainder, written `mod`. -/
def rem (x y : Expr) : Except ExprError Expr := BinaryOp.apply (.arithmetic .mod) x y

/-! ## Text -/

def endsWith (x suffix : Expr) : Except ExprError Expr := Function.endsWith.apply [x, suffix]

def startsWith (x start : Expr) : Except ExprError Expr := Function.startsWith.apply [x, start]

def contains (x needle : Expr) : Except ExprError Expr := Function.contains.apply [x, needle]

def indexOf (x needle : Expr) : Except ExprError Expr := Function.indexOf.apply [x, needle]

def substring (x start : Expr) : Except ExprError Expr := Function.substring.apply [x, start]

/-- A substring of a given length. -/
def substringLen (x start length : Expr) : Except ExprError Expr :=
  Function.substring.apply [x, start, length]

def concat (x y : Expr) : Except ExprError Expr := Function.concat.apply [x, y]

def toLower (x : Expr) : Except ExprError Expr := Function.toLower.apply [x]

def toUpper (x : Expr) : Except ExprError Expr := Function.toUpper.apply [x]

def trim (x : Expr) : Except ExprError Expr := Function.trim.apply [x]

def length (x : Expr) : Except ExprError Expr := Function.length.apply [x]

/-! ## Instants and numbers -/

def day (x : Expr) : Except ExprError Expr := Function.day.apply [x]

def month (x : Expr) : Except ExprError Expr := Function.month.apply [x]

def year (x : Expr) : Except ExprError Expr := Function.year.apply [x]

def round (x : Expr) : Except ExprError Expr := Function.round.apply [x]

def ceiling (x : Expr) : Except ExprError Expr := Function.ceiling.apply [x]

def floor (x : Expr) : Except ExprError Expr := Function.floor.apply [x]

end TableQuery.Expr
