import ODataQuery.DateTime.Text
import ODataQuery.Json.Basic
import ODataQuery.Number.Integer
import ODataQuery.Number.Reading

/-!
# Taking JSON values apart

How the parts of data are found in JSON.

* Scalars: `toBool?`, `toInt?`, `toCount?`, `toFloat?`, `toText?`, `toList?`, `toDictionary?`.
* Structures: an object with the declared fields in any order — unknown fields do not matter, a
  declared one may not occur twice — or an array of the values of all fields in order (`members?`).
* Choices: a name on its own, or an object that has the name as its only field (`choice?`), or a
  structure with one field that names the choice (`tagged?`).
* `Strictness`: in a few places, what stands inside a tagged structure may take more forms than it
  may elsewhere.
-/

set_option autoImplicit false

namespace ODataQuery
namespace Json

/-! ## Scalars -/

/-- A truth value. -/
def toBool? : Json → Option Bool
  | bool b => some b
  | _ => none

/-- A 64-bit integer. -/
def toInt? : Json → Option Int64
  | number (.whole n) => Number.integer? n
  | _ => none

/-- A 64-bit natural number. -/
def toCount? : Json → Option UInt64
  | number (.whole n) => if 0 ≤ n then Number.natural? n.toNat else none
  | _ => none

/-- A double; every number is one. -/
def toFloat? : Json → Option Float
  | number (.whole n) => some (Number.ofInt n)
  | number (.real x) => some x
  | _ => none

/-- A text. -/
def toText? : Json → Option String
  | string s => some s
  | _ => none

/-- A point of time. -/
def toDateTime? : Json → Option DateTime
  | string s => DateTime.readTimestamp? s
  | _ => none

/-- A list whose items are read in a given way. -/
def toList? {α : Type} (read : Json → Option α) : Json → Option (List α)
  | array items => items.mapM read
  | _ => none

/-- A dictionary whose values are read in a given way; the last value of a name counts. -/
def toDictionary? {α : Type} (read : Json → Option α) : Json → Option (Dictionary α)
  | object fields =>
    (fields.mapM fun field => (read field.2).map fun a => (field.1, a)).map Dictionary.ofList
  | _ => none

/-- A value that may be null. -/
def toOption? {α : Type} (read : Json → Option α) : Json → Option (Option α)
  | null => some none
  | value => (read value).map some

/-! ## Structures -/

/-- What a structure says about one of its fields. -/
inductive Member where
  | given (value : Json)
  /-- The field is not in the object. -/
  | absent
  /-- The array is too short for the field. -/
  | beyond

/-- The fields of a name. -/
def valuesOf (name : String) : List (String × Json) → List Json
  | [] => []
  | (other, value) :: rest => if other = name then value :: valuesOf name rest else valuesOf name rest

/-- The field of a name in an object, in which it may not occur twice. -/
def member? (fields : List (String × Json)) (name : String) : Option Member :=
  match valuesOf name fields with
  | [] => some .absent
  | [value] => some (.given value)
  | _ => none

/-- The values of fields in order. -/
def positional : List String → List Json → Option (List Member)
  | [], [] => some []
  | [], _ :: _ => none
  | _ :: names, [] => (positional names []).map (.beyond :: ·)
  | _ :: names, value :: rest => (positional names rest).map (.given value :: ·)

/-- The declared fields of a structure, in the order of their declaration. -/
def members? (names : List String) : Json → Option (List Member)
  | object fields => names.mapM (member? fields)
  | array items => positional names items
  | _ => none

namespace Member

/-- A field that has to be given. -/
def required? {α : Type} (read : Json → Option α) : Member → Option α
  | given value => read value
  | _ => none

/-- A field that may be null, or absent from an object. -/
def optional? {α : Type} (read : Json → Option α) : Member → Option (Option α)
  | given value => toOption? read value
  | absent => some none
  | beyond => none

/-- A field with a value to assume where it is not given. -/
def orElse? {α : Type} (assumed : α) (read : Json → Option α) : Member → Option α
  | given value => read value
  | _ => some assumed

end Member

/-! ## Choices -/

/-- How closely a choice keeps to its form.  What stands inside a tagged structure is read leniently:
the fields of a choice may be an array, a choice without fields may come with an empty object, and
the tag of a pair may be a number. -/
inductive Strictness where
  | strict
  | lenient
  deriving DecidableEq, Repr

/-- A choice: its name, and the only field of the object that has it as its name. -/
def choice? : Json → Option (String × Option Json)
  | string name => some (name, none)
  | object [(name, value)] => some (name, some value)
  | _ => none

/-- A choice that comes with nothing else. -/
def plainChoice? (strictness : Strictness) (value : Json) : Option String :=
  match value.choice? with
  | some (name, none) => some name
  | some (name, some null) => some name
  | some (name, some (object [])) => if strictness = .lenient then some name else none
  | _ => none

/-- A choice that comes with a value. -/
def choiceWith? (value : Json) : Option (String × Json) :=
  match value.choice? with
  | some (name, some content) => some (name, content)
  | _ => none

/-- The declared fields of a choice, in the order of their declaration. -/
def choiceMembers? (strictness : Strictness) (names : List String) : Json → Option (List Member)
  | object fields => members? names (object fields)
  | array items => if strictness = .lenient then members? names (array items) else none
  | _ => none

/-- The choice among some that a value names. -/
def oneOf? {α : Type} (strictness : Strictness) (choices : List α) (name : α → String)
    (value : Json) : Option α :=
  (value.plainChoice? strictness).bind fun word => choices.find? fun choice => name choice == word

/-! ## Tags -/

/-- The tag that a value gives: a name, or leniently the number of one of the names, counted from
zero. -/
def tag? (strictness : Strictness) (names : List String) : Json → Option String
  | string name => some name
  | number (.whole n) => if strictness = .lenient ∧ 0 ≤ n then names[n.toNat]? else none
  | _ => none

/-- A structure that names its choice in one field, which is read in a given way: the choice, and the
structure without the field. -/
def tagged? (field : String) (read : Json → Option String) : Json → Option (String × Json)
  | object fields =>
    match valuesOf field fields with
    | [value] =>
      (read value).map fun choice => (choice, object (fields.filter fun (name, _) => name ≠ field))
    | _ => none
  | array (value :: rest) => (read value).map fun choice => (choice, array rest)
  | _ => none

/-- A structure without declared fields. -/
def isBare : Json → Bool
  | object _ => true
  | array [] => true
  | _ => false

end Json
end ODataQuery
