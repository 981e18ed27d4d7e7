import ODataQuery.Configuration.Catalog
import ODataQuery.Proofs.Dictionary

/-!
# What validation makes sure of

A table gets into a catalog only if it passes the checks, and it stays as they have found it.

* `TableDefinition.resolve_eq_ok`, `Configuration.catalog_eq_ok`: what is asked of a table and of a
  configuration, and what they become.
* `CatalogTable.WellFormed`: the table has a base, its columns are those of its schema, and an
  ordering of its pages, if there is one, is by properties of the schema.
* `Catalog.wellFormed`: so is every table of a catalog.
-/

set_option autoImplicit false

namespace ODataQuery

/-! ## Tables -/

/-- What validation has made sure of. -/
structure CatalogTable.WellFormed (entry : CatalogTable) : Prop where
  base : Text.isBlankText entry.baseSql = false
  columns : ∀ name, entry.table.columns.get? name
    = (entry.schema.property? name).map fun property => property.columnName name
  /-- An ordering of pages is never empty. -/
  nonempty : entry.table.fallback ≠ some []
  known : ∀ properties, entry.table.fallback = some properties →
    ∀ property ∈ properties, (entry.schema.property? property).isSome

namespace TableDefinition

variable {dialect : Sql.Dialect} {shapes : Shapes} {name : String} {definition : TableDefinition}

/-- A table has to have a text, a shape that is flattened, and known properties to order by. -/
theorem resolve_eq_ok {entry : CatalogTable} :
    definition.resolve dialect shapes name = .ok entry
      ↔ Text.isBlankText definition.sql = false ∧ ∃ schema,
        shapes.resolve definition.shape = .ok schema
        ∧ (∀ property ∈ definition.fallbackOrdering, (schema.property? property).isSome)
        ∧ entry = ⟨definition.sql, schema,
          { Sql.Table.ofSchema dialect schema with fallback := definition.fallback }⟩ := by
  constructor
  · intro h
    rw [resolve] at h
    split at h
    · cases h
    · rename_i hsql
      split at h
      · cases h
      · rename_i schema hschema
        split at h
        · cases h
        · rename_i hunknown
          cases h
          refine ⟨by simpa using hsql, schema, hschema, fun property hproperty => ?_, rfl⟩
          have hdeclared := List.find?_eq_none.1 hunknown property hproperty
          rwa [Bool.not_eq_true, Bool.not_eq_false'] at hdeclared
  · rintro ⟨hsql, schema, hschema, hknown, rfl⟩
    have hunknown : definition.fallbackOrdering.find?
        (fun property => !(schema.property? property).isSome) = none :=
      List.find?_eq_none.2 fun property hproperty => by rw [hknown property hproperty]; exact nofun
    rw [resolve, hsql, if_neg Bool.false_ne_true, hschema]
    simp only [hunknown]

theorem fallback_eq_none_iff : definition.fallback = none ↔ definition.fallbackOrdering = [] := by
  cases hordering : definition.fallbackOrdering <;> simp [fallback, hordering]

theorem fallback_eq_some_iff {properties : List String} : definition.fallback = some properties
    ↔ properties = definition.fallbackOrdering ∧ properties ≠ [] := by
  cases hordering : definition.fallbackOrdering with
  | nil => simp [fallback, hordering]
  | cons first rest =>
    simp only [fallback, hordering, List.isEmpty_cons, Bool.false_eq_true, if_false,
      Option.some_inj, eq_comm]
    exact ⟨fun h => ⟨h, h ▸ List.cons_ne_nil _ _⟩, fun h => h.1⟩

/-- A definition that resolves gives a well-formed table. -/
theorem wellFormed_of_resolve {entry : CatalogTable}
    (h : definition.resolve dialect shapes name = .ok entry) : entry.WellFormed := by
  obtain ⟨hsql, schema, -, hknown, rfl⟩ := resolve_eq_ok.1 h
  refine ⟨hsql, fun name => Dictionary.get?_mapValues _ _ name, fun hempty => ?_,
    fun properties hproperties property hproperty => ?_⟩
  · exact (fallback_eq_some_iff.1 hempty).2 rfl
  · rw [(fallback_eq_some_iff.1 hproperties).1] at hproperty
    exact hknown property hproperty

end TableDefinition

/-! ## Catalogs -/

/-- A catalog is made of shapes that have been checked and tables that have been resolved. -/
theorem Configuration.catalog_eq_ok {configuration : Configuration} {catalog : Catalog} :
    configuration.catalog = .ok catalog
    ↔ checkShapes configuration.shapes configuration.shapes.keys = .ok ()
      ∧ configuration.tables.traverse
          (TableDefinition.resolve configuration.dialect.dialect configuration.shapes)
        = .ok catalog.tables
      ∧ catalog.dialect = configuration.dialect.dialect := by
  obtain ⟨dialect, tables⟩ := catalog
  rw [Configuration.catalog, bind_eq_ok]
  simp only [bind_eq_ok, Except.ok.injEq, Catalog.mk.injEq]
  constructor
  · rintro ⟨⟨⟩, hshapes, _, htables, rfl, rfl⟩
    exact ⟨hshapes, htables, rfl⟩
  · rintro ⟨hshapes, htables, rfl⟩
    exact ⟨(), hshapes, tables, htables, rfl, rfl⟩

/-- **The tables of a catalog are well-formed.** -/
theorem Catalog.wellFormed {configuration : Configuration} {catalog : Catalog}
    (hcatalog : configuration.catalog = .ok catalog) {name : String} {entry : CatalogTable}
    (hentry : catalog.table? name = some entry) : entry.WellFormed := by
  obtain ⟨-, htables, -⟩ := Configuration.catalog_eq_ok.1 hcatalog
  obtain ⟨definition, -, hresolve⟩ := Dictionary.exists_of_get?_traverse htables hentry
  exact TableDefinition.wellFormed_of_resolve hresolve

namespace CatalogTable.WellFormed

variable {entry : CatalogTable}

/-- Every property of the schema has a column. -/
theorem isSome_column (h : entry.WellFormed) {name : String}
    (hname : (entry.schema.property? name).isSome) : (entry.table.columns.get? name).isSome := by
  rw [h.columns, Option.isSome_map]
  exact hname

end CatalogTable.WellFormed

end ODataQuery
