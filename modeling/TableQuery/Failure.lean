import TableQuery.Limits.File
import TableQuery.QueryString
/-!
# Failures

Every error as a class, the part of the library it comes from, and its message.
-/

namespace TableQuery

/-- Listed in the order of `FailureClass.rank`. -/
inductive FailureClass
  | unsupported
  | typeMismatch
  | invalidArgument
  | resolution
  | limit
  | config
  deriving DecidableEq, Repr

namespace FailureClass

def all : List FailureClass := [unsupported, typeMismatch, invalidArgument, resolution, limit, config]

def name : FailureClass → String
  | unsupported => "unsupported"
  | typeMismatch => "type_mismatch"
  | invalidArgument => "invalid_argument"
  | resolution => "resolution"
  | limit => "limit"
  | config => "config"

def rank : FailureClass → Nat
  | unsupported => 0
  | typeMismatch => 1
  | invalidArgument => 2
  | resolution => 3
  | limit => 4
  | config => 5

instance : Ord FailureClass := ⟨fun a b => compare a.rank b.rank⟩

end FailureClass

inductive FailureOrigin
  | expr
  | render
  | query
  | config
  deriving DecidableEq, Repr

namespace FailureOrigin

def all : List FailureOrigin := [expr, render, query, config]

def name : FailureOrigin → String
  | expr => "expr"
  | render => "render"
  | query => "query"
  | config => "config"

end FailureOrigin

structure Failure where
  kind : FailureClass
  origin : FailureOrigin
  message : String
  deriving DecidableEq

/-- The message after its origin and class. -/
def Failure.labelled (f : Failure) : String :=
  f.origin.name ++ ":" ++ f.kind.name ++ ": " ++ f.message

/-! ## Classes of errors -/

def ExprError.failureClass : ExprError → FailureClass
  | unknownFunction _ | literal _ | arity _ _ => .unsupported
  | mismatch _ _ _ | operand _ _ | argument _ _ _ _ => .typeMismatch

def RenderError.failureClass : RenderError → FailureClass
  | unknownField _ _ | fieldType _ _ _ _ => .resolution
  | literal _ => .unsupported
  | tooDeep _ => .limit

namespace QueryError

def failureClass : QueryError → FailureClass
  | expr e => e.failureClass
  | render e => e.failureClass
  | nonBoolean _ => .typeMismatch
  | negativeBound _ _ | reservedParameter _ => .invalidArgument
  | tooManyOrderKeys _ _ | topExceeded _ _ => .limit

def failureOrigin : QueryError → FailureOrigin
  | expr _ => .expr
  | render _ => .render
  | _ => .query

end QueryError

/-! ## Errors as failures -/

def ExprError.failure (e : ExprError) : Failure := ⟨e.failureClass, .expr, e.message⟩

def RenderError.failure (e : RenderError) : Failure := ⟨e.failureClass, .render, e.message⟩

def QueryError.failure (e : QueryError) : Failure := ⟨e.failureClass, e.failureOrigin, e.message⟩

def LimitsError.failure (e : LimitsError) : Failure := ⟨.config, .config, e.message⟩

end TableQuery
