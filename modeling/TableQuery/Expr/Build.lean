import TableQuery.Expr.Basic
/-!
# Building expressions

Operators and functions applied to finished operands. Each application checks that constant operands
have a literal and that the operand types fit, and gives the new node its type. Constants among
numbers of different types take the wider type when the node is built.
-/

namespace TableQuery

inductive ExprError
  | unknownFunction (name : String)
  | literal (e : LiteralError)
  | mismatch (op : BinaryOp) (left right : ScalarType)
  | operand (op : UnaryOp) (type : ScalarType)
  | arity (f : Function) (found : Nat)
  | argument (f : Function) (index : Nat) (expected : ParamKind) (found : ScalarType)
  deriving DecidableEq

def ExprError.message : ExprError → String
  | unknownFunction name => "unsupported function '" ++ name ++ "'"
  | literal e => "unsupported literal: " ++ e.message
  | mismatch op l r => "operator '" ++ op.token ++ "' cannot combine " ++ l.name ++ " with " ++ r.name
  | operand op t => "operator '" ++ op.token ++ "' does not accept a " ++ t.name ++ " operand"
  | arity f found =>
    "function '" ++ f.name ++ "' takes " ++ toString f.signature.required ++ "..=" ++
      toString f.signature.params.length ++ " arguments, found " ++ toString found
  | argument f i expected found =>
    "argument " ++ toString i ++ " of '" ++ f.name ++ "' must be " ++ expected.name ++ ", found " ++
      found.name

namespace Expr

/-- Fails on a constant that has no literal. -/
def check : Expr → Except ExprError Unit
  | const v =>
    match v.literalError? with
    | some e => .error (.literal e)
    | none => .ok ()
  | _ => .ok ()

/-- Constants convert to a wider number, other nodes stay as they are. -/
def widen (t : ScalarType) : Expr → Expr
  | const v => const (v.widen t)
  | x => x

/-- Both operands at the wider of their types, where both are numbers. -/
def alignNumbers (l r : Expr) : Expr × Expr :=
  match l.type.widest? r.type with
  | some t => (l.widen t, r.widen t)
  | none => (l, r)

end Expr

/-! ## Functions -/

namespace Function

/-- Checks arguments against parameters in order, the first of each having position `i`. -/
def checkArguments (f : Function) : Nat → List Expr → List ParamKind → Except ExprError Unit
  | i, x :: xs, p :: ps => do
    x.check
    if p.accepts x.type then checkArguments f (i + 1) xs ps else .error (.argument f i p x.type)
  | _, _, _ => .ok ()

def apply (f : Function) (args : List Expr) : Except ExprError Expr := do
  let s := f.signature
  if args.length < s.required ∨ s.params.length < args.length then .error (.arity f args.length)
  else
    f.checkArguments 0 args s.params
    return .call f (s.returns.resolve (args.head?.elim .null Expr.type)) args

/-- Calls a function by its name. -/
def applyNamed (name : String) (args : List Expr) : Except ExprError Expr :=
  match ofName? name with
  | some f => f.apply args
  | none => .error (.unknownFunction name)

end Function

/-! ## Operators -/

def UnaryOp.apply (op : UnaryOp) (x : Expr) : Except ExprError Expr := do
  x.check
  match op.resultType? x.type with
  | some t => return .unary op t x
  | none => .error (.operand op x.type)

/-- Adding two texts joins them. -/
def BinaryOp.apply (op : BinaryOp) (l r : Expr) : Except ExprError Expr := do
  l.check
  r.check
  if op = .arithmetic .add ∧ l.type = .text ∧ r.type = .text then Function.concat.apply [l, r]
  else
    match op.resultType? l.type r.type with
    | some t =>
      let (l, r) := l.alignNumbers r
      return .binary op t l r
    | none => .error (.mismatch op l.type r.type)

end TableQuery
