import ODataQuery.Configuration.Basic
import ODataQuery.Proofs.Json.Fields

/-!
# Configurations are read back from JSON

What a configuration leaves out of its JSON form is what reading assumes where nothing is found: no
column, no base, no fallback ordering.  A dialect is told from the name of a preset by being an
object.

* `Sql.Dialect.ofJson?_toJson`, `Shapes.ofJson?_toJson`, `TableDefinition.ofJson?_toJson`: the parts
  of a configuration are read back.
* `Configuration.ofJson?_toJson`: so a configuration is.
-/

set_option autoImplicit false

namespace ODataQuery

/-! ## Dialects -/

namespace Sql

theorem IdentifierQuoting.oneOf?_name (quoting : IdentifierQuoting) :
    Json.oneOf? .strict all name (.string quoting.name) = some quoting :=
  Json.oneOf?_string .strict (by cases quoting <;> rfl)

theorem PlaceholderStyle.oneOf?_name (style : PlaceholderStyle) :
    Json.oneOf? .strict all name (.string style.name) = some style :=
  Json.oneOf?_string .strict (by cases style <;> rfl)

theorem FunctionStyle.oneOf?_name (style : FunctionStyle) :
    Json.oneOf? .strict all name (.string style.name) = some style :=
  Json.oneOf?_string .strict (by cases style <;> rfl)

theorem Preset.oneOf?_name (preset : Preset) :
    Json.oneOf? .strict all name (.string preset.name) = some preset :=
  Json.oneOf?_string .strict (by cases preset <;> rfl)

theorem PagingStyle.ofJson?_toJson (style : PagingStyle) : ofJson? style.toJson = some style := by
  cases style <;> simp [toJson, ofJson?, Json.tag?, Json.toBool?, Json.isBare]

theorem Dialect.ofJson?_toJson (dialect : Dialect) : ofJson? dialect.toJson = some dialect := by
  simp [toJson, ofJson?, IdentifierQuoting.oneOf?_name, PlaceholderStyle.oneOf?_name,
    PagingStyle.ofJson?_toJson, FunctionStyle.oneOf?_name]

/-- A dialect that is spelled out is no name of a preset. -/
theorem DialectChoice.ofJson?_toJson (choice : DialectChoice) :
    ofJson? choice.toJson = some choice := by
  cases choice with
  | preset preset => simp [toJson, ofJson?, preset.oneOf?_name]
  | custom dialect =>
    have hpreset : Json.oneOf? .strict Preset.all Preset.name dialect.toJson = none := rfl
    simp [toJson, ofJson?, hpreset, dialect.ofJson?_toJson]

end Sql

/-! ## Shapes -/

theorem Property.ofJson?_toJson (property : Property) :
    ofJson? property.toJson = some property := by
  obtain ⟨column, type, nullable⟩ := property
  have htype : Json.oneOf? .strict ScalarType.all ScalarType.name (.string type.name) = some type :=
    Json.oneOf?_string .strict type.ofName?_name
  have hnullable : Json.oneOf? .strict [true, false] nullableName (.string (nullableName nullable))
      = some nullable :=
    Json.oneOf?_string .strict (by cases nullable <;> rfl)
  cases column <;>
    simp [toJson, ofJson?, fieldIfSome, Json.toOption?, htype, hnullable]

theorem RecordShape.ofJson?_toJson (shape : RecordShape) : ofJson? shape.toJson = some shape := by
  obtain ⟨base, properties⟩ := shape
  have hproperties : Json.toDictionary? Property.ofJson? (properties.toJson Property.toJson)
      = some properties :=
    Json.toDictionary?_object fun entry _ => entry.2.ofJson?_toJson
  cases base <;>
    simp [toJson, ofJson?, fieldIfSome, Json.toOption?, hproperties]

theorem Shapes.ofJson?_toJson (shapes : Shapes) : ofJson? shapes.toJson = some shapes :=
  Json.toDictionary?_object fun entry _ => entry.2.ofJson?_toJson

/-! ## Tables -/

/-- No fallback ordering is written, and assumed where none is found. -/
theorem TableDefinition.ofJson?_toJson (table : TableDefinition) :
    ofJson? table.toJson = some table := by
  obtain ⟨sql, shape, fallbackOrdering⟩ := table
  by_cases hempty : fallbackOrdering = [] <;> simp [toJson, ofJson?, hempty]

/-! ## Configurations -/

namespace Configuration

theorem metadataOfJson?_metadataToJson (shapes : Shapes) :
    metadataOfJson? (metadataToJson shapes) = some shapes := by
  simp [metadataOfJson?, metadataToJson, shapes.ofJson?_toJson]

/-- **A configuration is read back from its JSON form.** -/
theorem ofJson?_toJson (configuration : Configuration) :
    ofJson? configuration.toJson = some configuration := by
  have hversion : Json.oneOf? .strict [version] id (.string version) = some version := rfl
  have htables : Json.toDictionary? TableDefinition.ofJson?
      (configuration.tables.toJson TableDefinition.toJson) = some configuration.tables :=
    Json.toDictionary?_object fun entry _ => entry.2.ofJson?_toJson
  simp [toJson, ofJson?, hversion, configuration.dialect.ofJson?_toJson,
    metadataOfJson?_metadataToJson, htables]

end Configuration
end ODataQuery
