import ODataQuery.DateTime.Basic
import ODataQuery.Number.Reading
import ODataQuery.Schema.ScalarType

/-!
# Values

The values that literals denote and that records hold.

* `Value.compare`: which of two values is the smaller.  Null is smaller than all else, integers and
  doubles compare as numbers, and values of unrelated types are incomparable, as is a double that is
  no number with any double.
* `Value.equal`: are two values of one kind the same.
-/

set_option autoImplicit false

namespace ODataQuery

/-- A literal of a query, or a property value of a record. -/
inductive Value where
  | null
  | bool (b : Bool)
  | int (i : Int64)
  | float (x : Float)
  | string (s : String)
  | dateTime (t : DateTime)
  deriving DecidableEq

namespace Value

/-- Is the value null. -/
def isNull : Value → Bool
  | null => true
  | _ => false

/-- The type of a value that is not null. -/
def scalarType? : Value → Option ScalarType
  | null => none
  | bool _ => some .boolean
  | int _ => some .integer
  | float _ => some .double
  | string _ => some .string
  | dateTime _ => some .dateTime

/-- The number that a numeric value denotes, as a double. -/
def toFloat? : Value → Option Float
  | int i => some (Number.ofInt i.toInt)
  | float x => some x
  | _ => none

/-- Which of two doubles is the smaller, if both are numbers. -/
def compareFloat (x y : Float) : Option Ordering :=
  if x < y then some .lt
  else if x == y then some .eq
  else if y < x then some .gt
  else none

/-- Which of two values is the smaller, if they can be compared. -/
def compare : Value → Value → Option Ordering
  | null, null => some .eq
  | null, _ => some .lt
  | _, null => some .gt
  | bool a, bool b => some (Ord.compare a b)
  | int a, int b => some (Ord.compare a.toInt b.toInt)
  | int a, float y => compareFloat (Number.ofInt a.toInt) y
  | float x, int b => compareFloat x (Number.ofInt b.toInt)
  | float x, float y => compareFloat x y
  | string a, string b => some (Ord.compare a b)
  | dateTime a, dateTime b => some (a.compare b)
  | _, _ => none

/-- Are two values of one kind the same.  As doubles, the two zeros are, and what is no number is
not the same as itself. -/
def equal : Value → Value → Bool
  | float x, float y => x == y
  | a, b => a = b

end Value
end ODataQuery
