import ODataQuery.Dictionary
import ODataQuery.Schema.ScalarType

/-!
# Schemas

A schema names the properties that queries over one kind of record may use, with their types and the
columns that hold them.

* `Property`, `Schema`: the data; `Schema.property?` and `Schema.lookup` find a property by its
  exact name.
* `SchemaError`: what can be wrong with a name, or with the shapes a schema is made from.
-/

set_option autoImplicit false

namespace ODataQuery

/-- One property of a record. -/
structure Property where
  /-- The column that holds the property, if it has another name than the property. -/
  column : Option String := none
  type : ScalarType
  /-- Can the property be null. -/
  nullable : Bool := true
  deriving DecidableEq, Repr

/-- The column that holds a property of the given name. -/
def Property.columnName (property : Property) (name : String) : String :=
  property.column.getD name

/-- The properties of one kind of record. -/
structure Schema where
  name : String
  properties : Dictionary Property
  deriving DecidableEq, Repr

/-- What can be wrong with the name of a shape or of a property. -/
inductive SchemaError where
  | shapeNotFound (shape : String)
  | baseShapeNotFound (shape base : String)
  | inheritanceCycle (shape : String)
  | unknownProperty (property shape : String)
  deriving DecidableEq, Repr

/-- The text of the error. -/
def SchemaError.message : SchemaError → String
  | shapeNotFound shape => s!"Record shape '{shape}' not found."
  | baseShapeNotFound shape base => s!"Record shape '{shape}' derives from unknown shape '{base}'."
  | inheritanceCycle shape => s!"Record shape '{shape}' derives from itself."
  | unknownProperty property shape => s!"Property '{property}' not found in record shape '{shape}'."

namespace Schema

/-- The property of a name. -/
def property? (schema : Schema) (name : String) : Option Property :=
  schema.properties.get? name

/-- The property of a name, or the error that there is none. -/
def lookup (schema : Schema) (name : String) : Except SchemaError Property :=
  match schema.property? name with
  | some property => .ok property
  | none => .error (.unknownProperty name schema.name)

/-- The type of a property. -/
def typeOf? (schema : Schema) (name : String) : Option ScalarType :=
  (schema.property? name).map Property.type

end Schema
end ODataQuery
