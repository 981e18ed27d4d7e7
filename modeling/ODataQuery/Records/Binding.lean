import ODataQuery.Schema.Basic
import ODataQuery.Value.Basic

/-!
# Records in memory

A binding says how the properties of a shape are read from records of some type, so that queries over
the shape can be answered from a list of such records.
-/

set_option autoImplicit false

namespace ODataQuery

/-- A property of a shape and how it is read from a record. -/
structure BoundProperty (ρ : Type) where
  property : Property
  read : ρ → Value

/-- The properties of a shape and how they are read from records. -/
structure Binding (ρ : Type) where
  shape : String
  properties : Dictionary (BoundProperty ρ)

namespace Binding

variable {ρ : Type}

/-- The schema of the shape. -/
def schema (binding : Binding ρ) : Schema :=
  ⟨binding.shape, binding.properties.mapValues fun _ bound => bound.property⟩

/-- How a property is read. -/
def reader? (binding : Binding ρ) (property : String) : Option (ρ → Value) :=
  (binding.properties.get? property).map BoundProperty.read

/-- The binding that reads the properties of a schema in one given way. -/
def ofSchema (schema : Schema) (read : String → ρ → Value) : Binding ρ where
  shape := schema.name
  properties := schema.properties.mapValues fun name property => ⟨property, read name⟩

end Binding

/-- Why a query cannot be answered from records. -/
structure UnboundProperty where
  property : String
  shape : String
  deriving DecidableEq, Repr

/-- The text of the error. -/
def UnboundProperty.message (error : UnboundProperty) : String :=
  s!"Property '{error.property}' is not bound on record shape '{error.shape}'."

/-- How a property is read, or the error that it is not bound. -/
def Binding.reader {ρ : Type} (binding : Binding ρ) (property : String) :
    Except UnboundProperty (ρ → Value) :=
  match binding.reader? property with
  | some read => .ok read
  | none => .error ⟨property, binding.shape⟩

end ODataQuery
