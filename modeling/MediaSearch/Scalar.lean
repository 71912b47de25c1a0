import MediaSearch.Value

/-!
# Scalars

Single values of filters, query parameters and result cards.
-/

set_option autoImplicit false

namespace MediaSearch

inductive Scalar where
  | null
  | bool (value : Bool)
  | number (value : Number)
  | text (value : String)
  deriving DecidableEq

abbrev NamedScalar := String × Scalar

namespace Scalar

def int (value : Int) : Scalar := .number (.int value)

def toValue : Scalar → Value
  | .null => .null
  | .bool value => .bool value
  | .number value => Value.ofNumber value
  | .text value => .text value

/-- The scalar as text: a text stands for itself, everything else as in messages. -/
def display (scalar : Scalar) : String :=
  scalar.toValue.display

def objectOf (scalars : List NamedScalar) : Value :=
  .object (scalars.map fun named => (named.1, named.2.toValue))

end Scalar

end MediaSearch
