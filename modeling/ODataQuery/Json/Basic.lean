import ODataQuery.Dictionary

/-!
# JSON values

A JSON value as it is written: the fields of an object keep their order, and a name may occur
twice.

* `Json.field?` finds a field by name; the last one of a name counts.
* `Json.canonical` sorts the fields of all objects inside a value and keeps the last one of each
  name.
* `Json.depth` counts how many values enclose one another.
-/

set_option autoImplicit false

namespace ODataQuery

/-- A number: whole and of 64 bits, with or without a sign, or else a double. -/
inductive JsonNumber where
  | whole (n : Int)
  | real (x : Float)
  deriving DecidableEq

/-- A JSON value. -/
inductive Json where
  | null
  | bool (b : Bool)
  | number (n : JsonNumber)
  | string (s : String)
  | array (items : List Json)
  | object (fields : List (String × Json))

instance : Inhabited Json := ⟨.null⟩

namespace Json

/-- The number of a natural number. -/
def ofNat (n : Nat) : Json := number (.whole n)

/-- The last field of a name. -/
def field? (name : String) : Json → Option Json
  | object fields => fields.reverse.lookup name
  | _ => none

mutual

/-- The value with the fields of every object in ascending order, each name once. -/
def canonical : Json → Json
  | null => null
  | bool b => bool b
  | number n => number n
  | string s => string s
  | array items => array (canonicalItems items)
  | object fields => object (Dictionary.ofList (canonicalFields fields)).entries

/-- The canonical forms of items. -/
def canonicalItems : List Json → List Json
  | [] => []
  | item :: rest => item.canonical :: canonicalItems rest

/-- The canonical forms of fields. -/
def canonicalFields : List (String × Json) → List (String × Json)
  | [] => []
  | (name, value) :: rest => (name, value.canonical) :: canonicalFields rest

end

mutual

/-- How many values enclose one another. -/
def depth : Json → Nat
  | array items => depthOfItems items + 1
  | object fields => depthOfFields fields + 1
  | _ => 1

/-- The greatest depth of items. -/
def depthOfItems : List Json → Nat
  | [] => 0
  | item :: rest => max item.depth (depthOfItems rest)

/-- The greatest depth of fields. -/
def depthOfFields : List (String × Json) → Nat
  | [] => 0
  | (_, value) :: rest => max value.depth (depthOfFields rest)

end

end Json
end ODataQuery
