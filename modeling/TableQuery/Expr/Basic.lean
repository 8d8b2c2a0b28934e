import TableQuery.Function
import TableQuery.Literal
import TableQuery.Operator
/-!
# Expressions

Predicates as trees. Every node above a leaf carries the type it was given when it was built
(`TableQuery.Expr.Build`).
-/

namespace TableQuery

inductive Expr
  | const (v : Value)
  | field (name : String) (type : ScalarType)
  | unary (op : UnaryOp) (type : ScalarType) (x : Expr)
  | binary (op : BinaryOp) (type : ScalarType) (l r : Expr)
  | call (f : Function) (type : ScalarType) (args : List Expr)

namespace Expr

def type : Expr → ScalarType
  | const v => v.type
  | field _ t => t
  | unary _ t _ => t
  | binary _ t _ _ => t
  | call _ t _ => t

def isBoolean (x : Expr) : Bool := x.type == .bool

/-! ## Size -/

mutual
def nodeCount : Expr → Nat
  | const _ => 1
  | field _ _ => 1
  | unary _ _ x => 1 + x.nodeCount
  | binary _ _ l r => 1 + (l.nodeCount + r.nodeCount)
  | call _ _ args => 1 + nodeCounts args

/-- The nodes of all arguments. -/
def nodeCounts : List Expr → Nat
  | [] => 0
  | x :: xs => x.nodeCount + nodeCounts xs
end

mutual
/-- Nodes on the longest path from the root. -/
def depth : Expr → Nat
  | const _ => 1
  | field _ _ => 1
  | unary _ _ x => 1 + x.depth
  | binary _ _ l r => 1 + max l.depth r.depth
  | call _ _ args => 1 + depths args

/-- The depth of the deepest argument. -/
def depths : List Expr → Nat
  | [] => 0
  | x :: xs => max x.depth (depths xs)
end

/-! ## Equality -/

mutual
/-- The same tree, its constants compared by `Value.equal`. -/
def equal : Expr → Expr → Bool
  | const v, const w => v.equal w
  | field n t, field m u => n == m && t == u
  | unary o t x, unary p u y => o == p && t == u && x.equal y
  | binary o t l r, binary p u m s => o == p && t == u && l.equal m && r.equal s
  | call f t xs, call g u ys => f == g && t == u && equals xs ys
  | _, _ => false

/-- Equal arguments, one by one. -/
def equals : List Expr → List Expr → Bool
  | [], [] => true
  | x :: xs, y :: ys => x.equal y && equals xs ys
  | _, _ => false
end

end Expr

end TableQuery
