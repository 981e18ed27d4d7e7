import ODataQuery.Configuration.Stored
import ODataQuery.Proofs.Encoding.Configuration
import ODataQuery.Proofs.Json.Text

/-!
# Stored configurations are read back

There are no numbers in the JSON form of a configuration, and six objects enclose one another at
most: the configuration, its metadata, the shapes, one shape, its properties and one property.  So
the text of the file holds this form, and the configuration is read back from it.

* `Configuration.fits_toJson`: how deep a configuration is nested.
* `Configuration.parse?_write`: what the text of the file holds.
* `Configuration.read_write`: the file is read back as the configuration.
-/

set_option autoImplicit false

namespace ODataQuery

/-! ## Levels -/

/-- A dictionary has one level more than its values. -/
theorem Dictionary.fits_toJson {α : Type} {write : α → Json} {levels : Nat}
    (h : ∀ a, (write a).Fits levels) (dictionary : Dictionary α) :
    (dictionary.toJson write).Fits (levels + 1) := by
  rw [toJson, Json.fits_object_iff, List.forall_mem_map]
  exact fun entry _ => h entry.2

theorem Property.fits_toJson (property : Property) : property.toJson.Fits 1 := by
  obtain ⟨column, type, nullable⟩ := property
  cases column <;> simp +contextual [toJson, fieldIfSome, or_imp]

theorem RecordShape.fits_toJson (shape : RecordShape) : shape.toJson.Fits 3 := by
  obtain ⟨base, properties⟩ := shape
  have hproperties := properties.fits_toJson Property.fits_toJson
  cases base <;> simp +contextual [toJson, fieldIfSome, or_imp, hproperties]

theorem Shapes.fits_toJson (shapes : Shapes) : shapes.toJson.Fits 4 :=
  Dictionary.fits_toJson RecordShape.fits_toJson shapes

theorem TableDefinition.fits_toJson (table : TableDefinition) : table.toJson.Fits 2 := by
  by_cases hempty : table.fallbackOrdering = [] <;> simp [toJson, hempty]

theorem Sql.PagingStyle.fits_toJson (style : PagingStyle) : style.toJson.Fits 1 := by
  cases style <;> simp [toJson]

theorem Sql.DialectChoice.fits_toJson (choice : DialectChoice) : choice.toJson.Fits 2 := by
  cases choice with
  | preset preset => exact Json.fits_string _ _
  | custom dialect => simp [toJson, Dialect.toJson, dialect.paging.fits_toJson]

namespace Configuration

/-- **A configuration is nested six levels deep** at most. -/
theorem fits_toJson (configuration : Configuration) : configuration.toJson.Fits 6 := by
  have hmetadata : (metadataToJson configuration.shapes).Fits 5 := by
    simp [metadataToJson, configuration.shapes.fits_toJson]
  have hdialect := configuration.dialect.fits_toJson.mono (by decide : 2 ≤ 5)
  have htables := (Dictionary.fits_toJson TableDefinition.fits_toJson configuration.tables).mono
    (by decide : 3 ≤ 5)
  simp [toJson, hmetadata, hdialect, htables]

/-! ## Files -/

/-- **The text of the file of a configuration holds its JSON form.** -/
theorem parse?_write (configuration : Configuration) :
    Json.parse? configuration.write = some configuration.toJson :=
  Json.parse?_pretty (configuration.fits_toJson.mono (by decide))

/-- **The file of a configuration is read back**: the version in it is the one that is looked for,
and the configuration is the one that was written. -/
theorem read_write (path : String) (configuration : Configuration) :
    read path configuration.write = .ok configuration := by
  have hversion : configuration.toJson.field? "version" = some (.string version) := rfl
  rw [read, configuration.parse?_write]
  simp [hversion, configuration.ofJson?_toJson]

end Configuration
end ODataQuery
