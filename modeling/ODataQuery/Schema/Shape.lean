import ODataQuery.Schema.Basic

/-!
# Record shapes and their inheritance

A shape declares properties and may derive from a base shape, whose properties it inherits.  A
property that is declared again hides the inherited one.

* `Shapes.lineage` follows the base links from a shape: the shapes on the way, nearest first.  It
  ends because no shape is visited twice.
* `Shapes.resolve` flattens the lineage into a schema, the nearest declaration winning.
-/

set_option autoImplicit false

namespace ODataQuery

/-- A named set of properties, possibly added to those of a base shape. -/
structure RecordShape where
  base : Option String := none
  properties : Dictionary Property
  deriving DecidableEq, Repr

/-- The record shapes of a configuration by name. -/
abbrev Shapes := Dictionary RecordShape

namespace Shapes

/-- How many shapes are not among the visited ones. -/
def unvisited (shapes : Shapes) (visited : List String) : Nat :=
  (shapes.keys.filter fun name => !visited.contains name).length

theorem mem_keys_of_get? {α : Type} {dictionary : Dictionary α} {name : String} {value : α}
    (h : dictionary.get? name = some value) : name ∈ dictionary.keys := by
  have hmem : ∀ entries : List (String × α), entries.lookup name = some value →
      name ∈ entries.map Prod.fst := by
    intro entries
    induction entries with
    | nil => simp
    | cons entry rest ih =>
      rw [Dictionary.lookup_cons]
      split
      · rename_i heq
        simp [heq]
      · intro hrest
        exact List.mem_cons_of_mem _ (ih hrest)
  exact hmem dictionary.entries h

/-- Visiting a shape for the first time leaves fewer to visit. -/
theorem unvisited_cons_lt {shapes : Shapes} {visited : List String} {name : String}
    {shape : RecordShape} (hget : shapes.get? name = some shape) (hnew : name ∉ visited) :
    unvisited shapes (name :: visited) < unvisited shapes visited := by
  have hfilter : (shapes.keys.filter fun other => !(name :: visited).contains other)
      = (shapes.keys.filter fun other => !visited.contains other).filter (· ≠ name) := by
    rw [List.filter_filter]
    congr 1
    funext other
    simp [Bool.not_or]
  rw [unvisited, unvisited, hfilter]
  refine List.length_filter_lt_length_iff_exists.2 ⟨name, ?_, by simp⟩
  simp [mem_keys_of_get? hget, hnew]

/-- The shapes met by following base links from `name`, nearest first.  `visited` are those met
before, the last one first, and `start` the one the search began with. -/
def lineageFrom (shapes : Shapes) (start : String) (visited : List String) (name : String) :
    Except SchemaError (List RecordShape) :=
  if _hnew : name ∈ visited then .error (.inheritanceCycle start)
  else
    match _hget : shapes.get? name with
    | none => .error <|
      match visited.head? with
      | none => .shapeNotFound name
      | some derived => .baseShapeNotFound derived name
    | some shape =>
      match shape.base with
      | none => .ok [shape]
      | some base => (lineageFrom shapes start (name :: visited) base).map (shape :: ·)
  termination_by unvisited shapes visited
  decreasing_by exact unvisited_cons_lt (by assumption) (by assumption)

/-- A shape, its base, the base of that, and so on to the one without a base. -/
def lineage (shapes : Shapes) (name : String) : Except SchemaError (List RecordShape) :=
  lineageFrom shapes name [] name

/-- The properties declared along a lineage, the nearest declaration of each. -/
def inheritedProperties (lineage : List RecordShape) : Dictionary Property :=
  lineage.foldr (fun shape inherited => inherited.merge shape.properties) .empty

/-- The schema of a shape with all that it inherits. -/
def resolve (shapes : Shapes) (name : String) : Except SchemaError Schema :=
  (lineage shapes name).map fun lineage => ⟨name, inheritedProperties lineage⟩

end Shapes
end ODataQuery
