import TableQuery.Entity
/-!
# Filter text

Expressions as the service reads them. Binary operators always stand in parentheses, so no text
depends on what is around it.
-/

namespace TableQuery

inductive RenderError
  | unknownField (entity field : String)
  | fieldType (entity field : String) (declared used : ScalarType)
  | literal (e : LiteralError)
  | tooDeep (max : Nat)
  deriving DecidableEq

def RenderError.message : RenderError → String
  | unknownField entity field => "entity '" ++ entity ++ "' has no field '" ++ field ++ "'"
  | fieldType entity field declared used =>
    "field '" ++ field ++ "' on entity '" ++ entity ++ "' is declared as " ++ declared.name ++
      ", but the expression uses it as " ++ used.name
  | literal e => "unsupported literal: " ++ e.message
  | tooDeep max => "filter expression exceeds the maximum depth of " ++ toString max

namespace Entity

/-- The field of that name. -/
def resolve (e : Entity) (name : String) : Except RenderError EntityField :=
  match e.field? name with
  | some f => .ok f
  | none => .error (.unknownField e.name name)

/-- The service's name for a field that is used with its declared type. -/
def access (e : Entity) (name : String) (type : ScalarType) : Except RenderError String := do
  let f ← e.resolve name
  if f.type = type then return f.wireName else .error (.fieldType e.name name f.type type)

end Entity

namespace Filter

def literal (v : Value) : Except RenderError String :=
  match v.literal with
  | .ok s => .ok s
  | .error e => .error (.literal e)

mutual
/-- Adds the text of a node at `depth`, which counts from 1 at the root, to `out`. A node too deep
fails before anything else about it. -/
def write (e : Entity) (max : Nat) (out : String) (depth : Nat) (x : Expr) :
    Except RenderError String :=
  if max < depth then .error (.tooDeep max)
  else
    match x with
    | .const v => do return out ++ (← literal v)
    | .field name type => do return out ++ (← e.access name type)
    | .unary op _ x =>
      match op.form with
      | .call token => do
        let out ← write e max (out ++ token ++ "(") (depth + 1) x
        return out ++ ")"
      | .sign token => write e max (out ++ token) (depth + 1) x
    | .binary op _ l r => do
      let out ← write e max (out ++ "(") (depth + 1) l
      let out ← write e max (out ++ " " ++ op.token ++ " ") (depth + 1) r
      return out ++ ")"
    | .call f _ args => do
      let out ← writeArguments e max (out ++ f.name ++ "(") (depth + 1) args
      return out ++ ")"

/-- Adds the texts of arguments with commas between them. -/
def writeArguments (e : Entity) (max : Nat) (out : String) (depth : Nat) :
    List Expr → Except RenderError String
  | [] => .ok out
  | [x] => write e max out depth x
  | x :: y :: rest => do
    let out ← write e max out depth x
    writeArguments e max (out ++ ",") depth (y :: rest)
end

/-- The filter text of an expression with at most `max` nodes on any path. -/
def render (e : Entity) (max : Nat) (x : Expr) : Except RenderError String := write e max "" 1 x

end Filter

end TableQuery
