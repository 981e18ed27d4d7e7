/-!
# Scalar types

The types a record property can have, and the two classes of them that the typing rules use.
-/

set_option autoImplicit false

namespace ODataQuery

/-- The types of a record property. -/
inductive ScalarType where
  | boolean
  | integer
  | double
  | string
  | dateTime
  deriving DecidableEq, Repr

namespace ScalarType

/-- Every scalar type. -/
def all : List ScalarType := [.boolean, .integer, .double, .string, .dateTime]

/-- The name of the type in configurations and messages. -/
def name : ScalarType → String
  | boolean => "boolean"
  | integer => "integer"
  | double => "double"
  | string => "string"
  | dateTime => "datetime"

/-- The type of a given name. -/
def ofName? (name : String) : Option ScalarType :=
  all.find? (·.name == name)

theorem ofName?_name (t : ScalarType) : ofName? t.name = some t := by
  cases t <;> decide

/-- Numeric types can be compared and combined with each other. -/
def isNumeric : ScalarType → Bool
  | integer | double => true
  | _ => false

/-- Ordered types can be compared by size, and be sorted on. -/
def isOrdered : ScalarType → Bool
  | boolean => false
  | _ => true

end ScalarType
end ODataQuery
