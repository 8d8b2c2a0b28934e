import TableQuery.Expr.Basic
import TableQuery.Assumed.Text.CamelCase
/-!
# Entities

What a query knows of a table: the names its fields go by, their types, and the names the service
has for them.
-/

namespace TableQuery

structure EntityField where
  name : String
  type : ScalarType
  /-- The service's name for the field, where it is not derived. -/
  wire? : Option String
  deriving DecidableEq

/-- The service's name for the field: the given one, or the field's name in camel case. -/
def EntityField.wireName (f : EntityField) : String := f.wire?.getD (CamelCase.ofName f.name)

structure Entity where
  name : String
  fields : List EntityField
  deriving DecidableEq

/-- The first field of that name. -/
def Entity.field? (e : Entity) (name : String) : Option EntityField :=
  e.fields.find? fun f => f.name == name

end TableQuery
