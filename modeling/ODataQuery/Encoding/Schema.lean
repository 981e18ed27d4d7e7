import ODataQuery.Json.Fields
import ODataQuery.Schema.Shape

/-!
# Schemas in JSON

Properties and record shapes as a configuration holds them.  A column and a base are left out where
there is none.
-/

set_option autoImplicit false

namespace ODataQuery

/-- A field that is left out where there is no value. -/
def fieldIfSome (name : String) : Option String → List (String × Json)
  | none => []
  | some value => [(name, .string value)]

/-- The JSON form of a dictionary. -/
def Dictionary.toJson {α : Type} (write : α → Json) (dictionary : Dictionary α) : Json :=
  .object (dictionary.entries.map fun (name, value) => (name, write value))

namespace Property

/-- The name of a choice of nullability. -/
def nullableName (nullable : Bool) : String :=
  if nullable then "Nullable" else "NonNullable"

/-- The JSON form of a property. -/
def toJson (property : Property) : Json :=
  .object (fieldIfSome "column" property.column ++ [
    ("type", .string property.type.name),
    ("nullable", .string (nullableName property.nullable))])

/-- The property of a JSON form. -/
def ofJson? (json : Json) : Option Property :=
  match json.members? ["column", "type", "nullable"] with
  | some [column, type, nullable] => do
    let column ← column.orElse? none (Json.toOption? Json.toText?)
    let type ← type.required? (Json.oneOf? .strict ScalarType.all ScalarType.name)
    let nullable ← nullable.orElse? true (Json.oneOf? .strict [true, false] nullableName)
    some ⟨column, type, nullable⟩
  | _ => none

end Property

namespace RecordShape

/-- The JSON form of a shape. -/
def toJson (shape : RecordShape) : Json :=
  .object (fieldIfSome "base" shape.base ++ [
    ("properties", shape.properties.toJson Property.toJson)])

/-- The shape of a JSON form. -/
def ofJson? (json : Json) : Option RecordShape :=
  match json.members? ["base", "properties"] with
  | some [base, properties] => do
    let base ← base.orElse? none (Json.toOption? Json.toText?)
    let properties ← properties.required? (Json.toDictionary? Property.ofJson?)
    some ⟨base, properties⟩
  | _ => none

end RecordShape

namespace Shapes

/-- The JSON form of record shapes. -/
def toJson (shapes : Shapes) : Json :=
  Dictionary.toJson RecordShape.toJson shapes

/-- The record shapes of a JSON form. -/
def ofJson? : Json → Option Shapes :=
  Json.toDictionary? RecordShape.ofJson?

end Shapes
end ODataQuery
