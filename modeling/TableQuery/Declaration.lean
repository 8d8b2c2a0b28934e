import TableQuery.Entity
import TableQuery.Expr.Methods
/-!
# Declarations

How a caller introduces a table: line by line, with a typed handle for every field. Conditions start
from a handle as they do from the field it stands for.
-/

namespace TableQuery

/-- The version of the library whose declarations these are. -/
def version : String := "0.4.0"

/-! ## Handles -/

/-- A typed handle on a field. -/
structure FieldRef where
  name : String
  type : ScalarType
  deriving DecidableEq

namespace FieldRef

/-- The handle on a field of an entity. -/
def ofField (f : EntityField) : FieldRef := ⟨f.name, f.type⟩

/-- The field as an expression. -/
def expr (r : FieldRef) : Expr := .field r.name r.type

def eq (r : FieldRef) (x : Expr) : Except ExprError Expr := r.expr.eq x

def ne (r : FieldRef) (x : Expr) : Except ExprError Expr := r.expr.ne x

def lt (r : FieldRef) (x : Expr) : Except ExprError Expr := r.expr.lt x

def lte (r : FieldRef) (x : Expr) : Except ExprError Expr := r.expr.lte x

def gt (r : FieldRef) (x : Expr) : Except ExprError Expr := r.expr.gt x

def gte (r : FieldRef) (x : Expr) : Except ExprError Expr := r.expr.gte x

def isNull (r : FieldRef) : Except ExprError Expr := r.expr.isNull

def isNotNull (r : FieldRef) : Except ExprError Expr := r.expr.isNotNull

def not (r : FieldRef) : Except ExprError Expr := r.expr.not

end FieldRef

/-! ## Lines -/

/-- A line of a declaration: a field, its type, and the service's name where one is given. -/
structure DeclaredField where
  field : String
  type : ScalarType
  wire? : Option String

namespace DeclaredField

/-- The constant that the line declares. -/
def constant (l : DeclaredField) : FieldRef := ⟨l.field, l.type⟩

/-- The field that the line adds to the entity. -/
def entityField (l : DeclaredField) : EntityField := ⟨l.field, l.type, l.wire?⟩

end DeclaredField

/-- An entity declared line by line, with a constant for every field. -/
structure Declaration where
  entity : String
  lines : List DeclaredField

namespace Declaration

def toEntity (d : Declaration) : Entity := ⟨d.entity, d.lines.map DeclaredField.entityField⟩

def constants (d : Declaration) : List FieldRef := d.lines.map DeclaredField.constant

end Declaration

end TableQuery
