import ODataQuery.Proofs.Dictionary
import ODataQuery.Proofs.Schema.Lineage

/-!
# Flattened schemas

A shape is flattened along its chain of base links.

* `Shapes.NearestDeclaration`: the declaration of a property by the nearest shape of the chain that
  declares it.
* `Shapes.exists_resolve_iff`, `Shapes.resolve_eq_error`: when a shape is flattened, and how that
  fails.
* `Shapes.property?_of_resolve`: a flattened schema has the nearest declarations.
* `Shapes.resolve_iff_chain`: these together, for every map of shapes and every name.
-/

set_option autoImplicit false

namespace ODataQuery
namespace Shapes

variable {shapes : Shapes} {name property : String}

/-! ## Declarations -/

/-- Some shape of the chain of a name declares a property. -/
def Declares (shapes : Shapes) (name property : String) : Prop :=
  ∃ steps shape, shapes.shapeAt? name steps = some shape
    ∧ (shape.properties.get? property).isSome

/-- A shape of the chain of a name declares a property, and no shape before it does. -/
def NearestDeclaration (shapes : Shapes) (name property : String) (declared : Property) : Prop :=
  ∃ steps shape, shapes.shapeAt? name steps = some shape
    ∧ shape.properties.get? property = some declared
    ∧ ∀ nearer < steps, ∀ other, shapes.shapeAt? name nearer = some other →
      other.properties.get? property = none

/-- What is inherited along a lineage is the first declaration on it. -/
theorem get?_inheritedProperties (lineage : List RecordShape) (property : String) :
    (inheritedProperties lineage).get? property
      = lineage.findSome? fun shape => shape.properties.get? property := by
  induction lineage with
  | nil => rfl
  | cons shape rest ih =>
    have hmerge : inheritedProperties (shape :: rest)
        = (inheritedProperties rest).merge shape.properties := rfl
    rw [hmerge, Dictionary.get?_merge, ih, List.findSome?_cons]
    cases shape.properties.get? property <;> rfl

variable {lineage : List RecordShape} {declared : Property}

/-- The first declaration on a lineage is the nearest one on the chain. -/
theorem findSome?_eq_some_iff_nearest
    (hlineage : ∀ steps, lineage[steps]? = shapes.shapeAt? name steps) :
    lineage.findSome? (fun shape => shape.properties.get? property) = some declared
      ↔ shapes.NearestDeclaration name property declared := by
  rw [List.findSome?_eq_some_iff]
  constructor
  · rintro ⟨before, shape, after, rfl, hdeclared, hbefore⟩
    refine ⟨before.length, shape, ?_, hdeclared, fun nearer hlt other hother => ?_⟩
    · rw [← hlineage, List.getElem?_append_right (Nat.le_refl _), Nat.sub_self]
      rfl
    · rw [← hlineage, List.getElem?_append_left hlt] at hother
      exact hbefore other (List.mem_of_getElem? hother)
  · rintro ⟨steps, shape, hshape, hdeclared, hnearer⟩
    rw [← hlineage] at hshape
    obtain ⟨hlt, rfl⟩ := List.getElem?_eq_some_iff.1 hshape
    refine ⟨lineage.take steps, lineage[steps], lineage.drop (steps + 1), ?_, hdeclared, ?_⟩
    · rw [List.getElem_cons_drop, List.take_append_drop]
    · intro other hother
      obtain ⟨nearer, hnearer', hother⟩ := List.mem_take_iff_getElem.1 hother
      refine hnearer nearer (by omega) other ?_
      rw [← hlineage, ← hother]
      exact List.getElem?_eq_getElem _

theorem isSome_findSome?_iff_declares
    (hlineage : ∀ steps, lineage[steps]? = shapes.shapeAt? name steps) :
    (lineage.findSome? fun shape => shape.properties.get? property).isSome
      ↔ shapes.Declares name property := by
  rw [List.findSome?_isSome_iff]
  constructor
  · rintro ⟨shape, hshape, hdeclared⟩
    obtain ⟨steps, hsteps⟩ := List.mem_iff_getElem?.1 hshape
    exact ⟨steps, shape, (hlineage steps).symm.trans hsteps, hdeclared⟩
  · rintro ⟨steps, shape, hshape, hdeclared⟩
    exact ⟨shape, List.mem_of_getElem? ((hlineage steps).trans hshape), hdeclared⟩

/-! ## Flattening -/

/-- A flattened schema is made from the lineage. -/
theorem resolve_eq_ok {schema : Schema} (h : shapes.resolve name = .ok schema) :
    ∃ lineage, (∀ steps, lineage[steps]? = shapes.shapeAt? name steps)
      ∧ schema = ⟨name, inheritedProperties lineage⟩ := by
  obtain ⟨lineage, hlineage, rfl⟩ := map_eq_ok.1 h
  exact ⟨lineage, getElem?_of_lineageFrom hlineage, rfl⟩

/-- A flattened schema has the nearest declaration of each property. -/
theorem property?_of_resolve {schema : Schema} (h : shapes.resolve name = .ok schema) :
    schema.property? property = some declared
      ↔ shapes.NearestDeclaration name property declared := by
  obtain ⟨lineage, hlineage, rfl⟩ := resolve_eq_ok h
  rw [Schema.property?, get?_inheritedProperties, findSome?_eq_some_iff_nearest hlineage]

/-- A flattened schema has the properties that some shape of the chain declares. -/
theorem isSome_property?_of_resolve {schema : Schema} (h : shapes.resolve name = .ok schema) :
    (schema.property? property).isSome ↔ shapes.Declares name property := by
  obtain ⟨lineage, hlineage, rfl⟩ := resolve_eq_ok h
  rw [Schema.property?, get?_inheritedProperties, isSome_findSome?_iff_declares hlineage]

theorem ending_resolve (shapes : Shapes) (name : String) :
    shapes.Ending name (failure? (shapes.resolve name)) := by
  rw [resolve, failure?_map]
  exact ending_lineage shapes name

/-- **A shape is flattened exactly if its chain gets to a shape without a base.** -/
theorem exists_resolve_iff :
    (∃ schema, shapes.resolve name = .ok schema) ↔ shapes.IsRooted name := by
  constructor
  · rintro ⟨schema, h⟩
    have hending := ending_resolve shapes name
    rw [h] at hending
    cases hending with
    | root hrooted => exact hrooted
  · intro hrooted
    have hnone := (ending_resolve shapes name).unique (.root hrooted)
    cases hresolve : shapes.resolve name with
    | ok schema => exact ⟨schema, rfl⟩
    | error error =>
      rw [hresolve] at hnone
      cases hnone

/-- **Flattening fails with the error that tells how the chain goes.** -/
theorem resolve_eq_error {error : SchemaError} :
    shapes.resolve name = .error error ↔ shapes.Ending name (some error) := by
  constructor
  · intro h
    have hending := ending_resolve shapes name
    rwa [h] at hending
  · intro hending
    have hsome := (ending_resolve shapes name).unique hending
    cases hresolve : shapes.resolve name with
    | ok schema =>
      rw [hresolve] at hsome
      cases hsome
    | error cause =>
      rw [hresolve] at hsome
      cases hsome
      rfl

/-- A chain that comes back starts at a shape. -/
theorem Recurs.mem_keys (h : shapes.Recurs name) : name ∈ shapes.keys :=
  Dictionary.mem_keys.2 (Option.ne_none_iff_exists'.1 h.get?_ne_none)

theorem resolve_eq_inheritanceCycle {shape : String} :
    shapes.resolve name = .error (.inheritanceCycle shape) ↔ shape = name ∧ shapes.Recurs name := by
  rw [resolve_eq_error]
  constructor
  · rintro ⟨⟩
    rename_i hrecurs
    exact ⟨rfl, hrecurs⟩
  · rintro ⟨rfl, hrecurs⟩
    exact .cycle hrecurs

theorem resolve_eq_shapeNotFound {shape : String} :
    shapes.resolve name = .error (.shapeNotFound shape)
      ↔ shape = name ∧ shapes.get? name = none := by
  rw [resolve_eq_error]
  constructor
  · rintro ⟨⟩
    rename_i habsent
    exact ⟨rfl, habsent⟩
  · rintro ⟨rfl, habsent⟩
    exact .absent habsent

theorem resolve_eq_baseShapeNotFound {shape base : String} :
    shapes.resolve name = .error (.baseShapeNotFound shape base)
      ↔ shapes.LacksBase name shape base := by
  rw [resolve_eq_error]
  constructor
  · rintro ⟨⟩
    assumption
  · exact .absentBase

theorem resolve_ne_unknownProperty (shape : String) :
    shapes.resolve name ≠ .error (.unknownProperty property shape) := by
  rw [ne_eq, resolve_eq_error]
  rintro ⟨⟩

/-- **Flattening follows the chain of base links.**  It succeeds exactly if the chain gets to a
shape without a base, and then the schema has the properties that some shape of the chain declares,
as the nearest one declares them.  Else it says which of three ways the chain goes: it comes back to a name
on it, the name itself is that of no shape, or the base of a shape is. -/
theorem resolve_iff_chain (shapes : Shapes) (name : String) :
    ((∃ schema, shapes.resolve name = .ok schema) ↔ shapes.IsRooted name)
      ∧ (∀ schema, shapes.resolve name = .ok schema → schema.name = name
        ∧ (∀ property, (schema.property? property).isSome ↔ shapes.Declares name property)
        ∧ ∀ property declared, schema.property? property = some declared
          ↔ shapes.NearestDeclaration name property declared)
      ∧ (∀ shape, shapes.resolve name = .error (.inheritanceCycle shape)
        ↔ shape = name ∧ shapes.Recurs name)
      ∧ (∀ shape, shapes.resolve name = .error (.shapeNotFound shape)
        ↔ shape = name ∧ shapes.get? name = none)
      ∧ (∀ shape base, shapes.resolve name = .error (.baseShapeNotFound shape base)
        ↔ shapes.LacksBase name shape base)
      ∧ ∀ property shape, shapes.resolve name ≠ .error (.unknownProperty property shape) := by
  refine ⟨exists_resolve_iff, fun schema h => ⟨?_, fun property => ?_, fun property declared => ?_⟩,
    fun shape => resolve_eq_inheritanceCycle, fun shape => resolve_eq_shapeNotFound,
    fun shape base => resolve_eq_baseShapeNotFound,
    fun property shape => resolve_ne_unknownProperty shape⟩
  · obtain ⟨lineage, -, rfl⟩ := resolve_eq_ok h
    rfl
  · exact isSome_property?_of_resolve h
  · exact property?_of_resolve h

/-- Notes that hide the column of their base, a shape whose base is missing, and one that derives
from a shape that derives from itself. -/
theorem resolve_iff_chain_of_notes :
    let entity : RecordShape :=
      { properties := .ofList [("Created", { type := .dateTime }), ("Id", { type := .integer })] }
    let note : RecordShape :=
      { base := some "Entity"
        properties := .ofList [("Id", { column := some "note_id", type := .integer })] }
    let shapes : Shapes := .ofList [("Entity", entity), ("Note", note),
      ("Memo", { base := some "Note", properties := .empty }),
      ("Orphan", { base := some "Gone", properties := .empty }),
      ("Leaf", { base := some "Loop", properties := .empty }),
      ("Loop", { base := some "Loop", properties := .empty })]
    (∃ schema, shapes.resolve "Memo" = .ok schema
        ∧ (schema.property? "Created").isSome
        ∧ schema.property? "Id" = some { column := some "note_id", type := .integer })
      ∧ shapes.resolve "Leaf" = .error (.inheritanceCycle "Leaf")
      ∧ shapes.resolve "Gone" = .error (.shapeNotFound "Gone")
      ∧ shapes.resolve "Orphan" = .error (.baseShapeNotFound "Orphan" "Gone") := by
  intro entity note shapes
  obtain ⟨hok, hschema, -⟩ := resolve_iff_chain shapes "Memo"
  have hroot : shapes.shapeAt? "Memo" 2 = some entity := by decide
  have hnote : shapes.shapeAt? "Memo" 1 = some note := by decide
  obtain ⟨schema, hresolve⟩ := hok.2 ⟨2, entity, hroot, rfl⟩
  obtain ⟨-, hdeclares, hnearest⟩ := hschema schema hresolve
  refine ⟨⟨schema, hresolve, (hdeclares _).2 ⟨2, entity, hroot, rfl⟩, (hnearest _ _).2 ?_⟩,
    ?_, ?_, ?_⟩
  · refine ⟨1, note, hnote, rfl, fun nearer hlt other hother => ?_⟩
    obtain rfl : nearer = 0 := by omega
    have hmemo : shapes.shapeAt? "Memo" 0 = some ⟨some "Note", .empty⟩ := by decide
    cases hother.symm.trans hmemo
    rfl
  · exact ((resolve_iff_chain shapes "Leaf").2.2.1 _).2
      ⟨rfl, 1, 2, "Loop", by decide, by decide, by decide⟩
  · exact ((resolve_iff_chain shapes "Gone").2.2.2.1 _).2 ⟨rfl, by decide⟩
  · exact ((resolve_iff_chain shapes "Orphan").2.2.2.2.1 _ _).2
      ⟨0, rfl, by decide, by decide⟩

end Shapes
end ODataQuery
