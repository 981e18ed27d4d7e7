import Mathlib.Data.List.Basic
import ODataQuery.Proofs.Configuration.Catalog
import ODataQuery.Proofs.Schema.Inheritance

/-!
# What validation accepts, and what it reports

A configuration is checked shape by shape and then table by table, both in the order of their names.

* `Configuration.checkShapes_keys_eq_error`: the least name of a shape that cannot be flattened
  decides the error.
* `TableDefinition.cases_of_resolve_eq_error`: what can be wrong with a table, and
  `TableDefinition.Elaborates`: what is made of one with which nothing is.
* `Configuration.IsValid`: what is asked of a configuration, by its chains of base links.
* `Configuration.catalog_iff_isValid`: it is all that is asked, every failure is one of a shape or a
  table, and the tables of the catalog are those of the configuration.
* `Configuration.inheritanceCycle_iff`: which shape an inheritance cycle is reported for.
-/

set_option autoImplicit false

namespace ODataQuery

/-! ## Shapes -/

namespace Configuration

variable {shapes : Shapes} {names : List String} {error : CatalogError}

theorem checkShapes_cons (shapes : Shapes) (name : String) (rest : List String) :
    checkShapes shapes (name :: rest)
      = (shapes.resolve name).mapError CatalogError.ofShape
        >>= fun _ => checkShapes shapes rest := by
  rw [checkShapes]
  cases shapes.resolve name <;> rfl

theorem checkShapes_eq_ok :
    checkShapes shapes names = .ok () ↔ ∀ name ∈ names, shapes.IsRooted name := by
  induction names with
  | nil => simp [checkShapes]
  | cons name rest ih =>
    rw [checkShapes_cons, bind_eq_ok, List.forall_mem_cons, ← ih, ← Shapes.exists_resolve_iff]
    simp only [mapError_eq_ok]
    exact exists_and_right

/-- Of names in ascending order, the least one that cannot be flattened decides the error. -/
theorem checkShapes_eq_error (hsorted : names.Pairwise (· < ·)) :
    checkShapes shapes names = .error error
      ↔ ∃ name ∈ names, (∀ other ∈ names, other < name → shapes.IsRooted other)
        ∧ ∃ cause, shapes.resolve name = .error cause ∧ error = .ofShape cause := by
  induction names with
  | nil => simp [checkShapes]
  | cons first rest ih =>
    obtain ⟨hfirst, hrest⟩ := List.pairwise_cons.1 hsorted
    rw [checkShapes_cons, bind_eq_error, mapError_eq_error]
    simp only [mapError_eq_ok, exists_and_right, Shapes.exists_resolve_iff, ih hrest]
    constructor
    · rintro (⟨cause, hcause, rfl⟩ | ⟨hrooted, name, hname, hleast, hcause⟩)
      · refine ⟨first, List.mem_cons_self, fun other hother hlt => ?_, cause, hcause, rfl⟩
        rcases List.mem_cons.1 hother with rfl | hother
        · exact absurd hlt (String.lt_irrefl _)
        · exact absurd (String.lt_trans hlt (hfirst other hother)) (String.lt_irrefl _)
      · refine ⟨name, List.mem_cons_of_mem _ hname, fun other hother hlt => ?_, hcause⟩
        rcases List.mem_cons.1 hother with rfl | hother
        · exact hrooted
        · exact hleast other hother hlt
    · rintro ⟨name, hname, hleast, cause, hcause, rfl⟩
      rcases List.mem_cons.1 hname with rfl | hname
      · exact .inl ⟨cause, hcause, rfl⟩
      · refine .inr ⟨hleast first List.mem_cons_self (hfirst name hname), name, hname, ?_, cause,
          hcause, rfl⟩
        exact fun other hother => hleast other (List.mem_cons_of_mem _ hother)

theorem checkShapes_keys_eq_error :
    checkShapes shapes shapes.keys = .error error
      ↔ ∃ name ∈ shapes.keys, (∀ other ∈ shapes.keys, other < name → shapes.IsRooted other)
        ∧ ∃ cause, shapes.resolve name = .error cause ∧ error = .ofShape cause :=
  checkShapes_eq_error (List.pairwise_map.2 shapes.sorted)

/-! ## Errors of shapes -/

/-- Of a shape, only a missing base or a cycle is reported. -/
theorem ofShape_ne_schema {name : String} {cause : SchemaError}
    (hcause : shapes.resolve name = .error cause) (hname : name ∈ shapes.keys)
    (error : SchemaError) : CatalogError.ofShape cause ≠ .schema error := by
  cases Shapes.resolve_eq_error.1 hcause with
  | absent habsent =>
    obtain ⟨shape, hshape⟩ := Dictionary.mem_keys.1 hname
    cases habsent.symm.trans hshape
  | absentBase _ => exact nofun
  | cycle _ => exact nofun

theorem ofTable_ne_schema {name : String} {cause : SchemaError}
    (hcause : shapes.resolve name = .error cause) (table : String) (error : SchemaError) :
    CatalogError.ofTable table cause ≠ .schema error := by
  cases Shapes.resolve_eq_error.1 hcause with
  | absent _ => exact nofun
  | absentBase _ => exact nofun
  | cycle _ => exact nofun

theorem ofShape_eq_inheritanceCycle {cause : SchemaError} {shape : String} :
    CatalogError.ofShape cause = .inheritanceCycle shape ↔ cause = .inheritanceCycle shape := by
  cases cause <;> simp [CatalogError.ofShape]

theorem ofTable_eq_inheritanceCycle {cause : SchemaError} {table shape : String} :
    CatalogError.ofTable table cause = .inheritanceCycle shape
      ↔ cause = .inheritanceCycle shape := by
  cases cause <;> simp [CatalogError.ofTable, CatalogError.ofShape]

end Configuration

/-! ## Tables -/

namespace TableDefinition

variable {dialect : Sql.Dialect} {shapes : Shapes} {name : String} {definition : TableDefinition}

/-- The three faults of a table. -/
theorem cases_of_resolve_eq_error {error : CatalogError}
    (h : definition.resolve dialect shapes name = .error error) :
    error = .blankSql name
      ∨ (∃ cause, shapes.resolve definition.shape = .error cause ∧ error = .ofTable name cause)
      ∨ ∃ property, error = .unknownFallbackProperty name property := by
  rw [resolve] at h
  split at h
  · cases h
    exact .inl rfl
  · split at h
    · rename_i cause hcause
      cases h
      exact .inr (.inl ⟨cause, hcause, rfl⟩)
    · split at h
      · rename_i property _
        cases h
        exact .inr (.inr ⟨property, rfl⟩)
      · cases h

/-- What validation makes of a table: its columns are those of the nearest declarations, and its
pages are ordered if it names properties to order them by. -/
structure Elaborates (definition : TableDefinition) (shapes : Shapes) (dialect : Sql.Dialect)
    (entry : CatalogTable) : Prop where
  sql : entry.baseSql = definition.sql
  schema : shapes.resolve definition.shape = .ok entry.schema
  dialect : entry.table.dialect = dialect
  properties : entry.table.columns.keys = entry.schema.properties.keys
  columns : ∀ property column, entry.table.columns.get? property = some column
    ↔ ∃ declared, shapes.NearestDeclaration definition.shape property declared
      ∧ column = declared.column.getD property
  fallback : entry.table.fallback = none ↔ definition.fallbackOrdering = []
  ordering : ∀ properties, entry.table.fallback = some properties →
    properties = definition.fallbackOrdering

theorem elaborates_of_resolve {entry : CatalogTable}
    (h : definition.resolve dialect shapes name = .ok entry) :
    definition.Elaborates shapes dialect entry := by
  obtain ⟨-, schema, hschema, -, rfl⟩ := resolve_eq_ok.1 h
  refine ⟨rfl, hschema, rfl, Dictionary.keys_mapValues _ _, fun property column => ?_,
    fallback_eq_none_iff, fun properties hproperties => ?_⟩
  · have hcolumns : (Sql.Table.ofSchema dialect schema).columns.get? property
        = (schema.property? property).map fun declared => declared.columnName property :=
      Dictionary.get?_mapValues _ _ _
    show (Sql.Table.ofSchema dialect schema).columns.get? property = some column ↔ _
    rw [hcolumns, Option.map_eq_some_iff]
    simp only [Shapes.property?_of_resolve hschema, Property.columnName, eq_comm]
  · exact (fallback_eq_some_iff.1 hproperties).1

end TableDefinition

/-! ## Configurations -/

namespace Configuration

variable {configuration : Configuration}

/-- What is asked of a configuration. -/
structure IsValid (configuration : Configuration) : Prop where
  rooted : ∀ name ∈ configuration.shapes.keys, configuration.shapes.IsRooted name
  sql : ∀ name definition, configuration.tables.get? name = some definition →
    Text.isBlankText definition.sql = false
  shape : ∀ name definition, configuration.tables.get? name = some definition →
    ∃ shape, configuration.shapes.get? definition.shape = some shape
  fallback : ∀ name definition, configuration.tables.get? name = some definition →
    ∀ property ∈ definition.fallbackOrdering,
      configuration.shapes.Declares definition.shape property

/-- Validation fails at a shape, or with all shapes checked at a table. -/
theorem catalog_eq_error {error : CatalogError} : configuration.catalog = .error error
    ↔ checkShapes configuration.shapes configuration.shapes.keys = .error error
      ∨ checkShapes configuration.shapes configuration.shapes.keys = .ok ()
        ∧ configuration.tables.traverse
            (TableDefinition.resolve configuration.dialect.dialect configuration.shapes)
          = .error error := by
  rw [Configuration.catalog, bind_eq_error]
  simp only [bind_eq_error, reduceCtorEq, and_false, exists_false, or_false]
  refine or_congr_right ⟨?_, fun h => ⟨(), h⟩⟩
  rintro ⟨⟨⟩, h⟩
  exact h

/-- **A configuration is accepted exactly if it is valid.** -/
theorem exists_catalog_iff :
    (∃ catalog, configuration.catalog = .ok catalog) ↔ configuration.IsValid := by
  constructor
  · rintro ⟨catalog, h⟩
    obtain ⟨hshapes, htables, -⟩ := catalog_eq_ok.1 h
    have hparts (name : String) (definition : TableDefinition)
        (hget : configuration.tables.get? name = some definition) :
        Text.isBlankText definition.sql = false ∧ ∃ schema,
          configuration.shapes.resolve definition.shape = .ok schema
          ∧ ∀ property ∈ definition.fallbackOrdering, (schema.property? property).isSome := by
      obtain ⟨entry, hentry⟩ := Dictionary.exists_traverse_iff.1 ⟨_, htables⟩ name definition hget
      obtain ⟨hsql, schema, hschema, hknown, -⟩ := TableDefinition.resolve_eq_ok.1 hentry
      exact ⟨hsql, schema, hschema, hknown⟩
    refine ⟨checkShapes_eq_ok.1 hshapes,
      fun name definition hget => (hparts name definition hget).1,
      fun name definition hget => ?_, fun name definition hget property hproperty => ?_⟩
    · obtain ⟨-, hschema⟩ := hparts name definition hget
      refine Option.ne_none_iff_exists'.1 (Shapes.exists_resolve_iff.1 ?_).get?_ne_none
      exact hschema.imp fun schema h => h.1
    · obtain ⟨-, schema, hschema, hknown⟩ := hparts name definition hget
      exact (Shapes.isSome_property?_of_resolve hschema).1 (hknown property hproperty)
  · intro hvalid
    obtain ⟨tables, htables⟩ : ∃ tables, configuration.tables.traverse
        (TableDefinition.resolve configuration.dialect.dialect configuration.shapes)
          = .ok tables := by
      refine Dictionary.exists_traverse_iff.2 fun name definition hget => ?_
      have hkey := Dictionary.mem_keys.2 (hvalid.shape name definition hget)
      obtain ⟨schema, hschema⟩ := Shapes.exists_resolve_iff.2 (hvalid.rooted _ hkey)
      refine ⟨_, TableDefinition.resolve_eq_ok.2
        ⟨hvalid.sql name definition hget, schema, hschema, fun property hproperty => ?_, rfl⟩⟩
      exact (Shapes.isSome_property?_of_resolve hschema).2
        (hvalid.fallback name definition hget property hproperty)
    exact ⟨⟨configuration.dialect.dialect, tables⟩,
      catalog_eq_ok.2 ⟨checkShapes_eq_ok.2 hvalid.rooted, htables, rfl⟩⟩

/-- What a shape or a table is reported for is never left to the errors of schemas. -/
theorem catalog_ne_schema (error : SchemaError) :
    configuration.catalog ≠ .error (.schema error) := by
  intro h
  rcases catalog_eq_error.1 h with hshapes | ⟨-, htables⟩
  · obtain ⟨name, hname, -, cause, hcause, herror⟩ := checkShapes_keys_eq_error.1 hshapes
    exact ofShape_ne_schema hcause hname error herror.symm
  · obtain ⟨name, definition, -, hresolve⟩ := Dictionary.exists_of_traverse_eq_error htables
    rcases TableDefinition.cases_of_resolve_eq_error hresolve with
      herror | ⟨cause, hcause, herror⟩ | ⟨property, herror⟩
    · cases herror
    · exact ofTable_ne_schema hcause name error herror.symm
    · cases herror

/-- **Validation is exact.**  A configuration is accepted exactly if it is valid; no failure is left
to the errors of schemas; and an accepted configuration gives one table for each that it defines,
with the columns that the nearest declarations of its properties say. -/
theorem catalog_iff_isValid (configuration : Configuration) :
    ((∃ catalog, configuration.catalog = .ok catalog) ↔ configuration.IsValid)
      ∧ (∀ error, configuration.catalog ≠ .error (.schema error))
      ∧ ∀ catalog, configuration.catalog = .ok catalog →
        catalog.dialect = configuration.dialect.dialect
          ∧ catalog.tables.keys = configuration.tables.keys
          ∧ ∀ name definition, configuration.tables.get? name = some definition →
            ∃ entry, catalog.table? name = some entry
              ∧ definition.Elaborates configuration.shapes configuration.dialect.dialect entry := by
  refine ⟨exists_catalog_iff, fun error => catalog_ne_schema error, fun catalog h => ?_⟩
  obtain ⟨-, htables, hdialect⟩ := catalog_eq_ok.1 h
  have hkeys := Dictionary.keys_of_traverse htables
  refine ⟨hdialect, hkeys, fun name definition hget => ?_⟩
  have hname : name ∈ catalog.tables.keys := hkeys ▸ Dictionary.mem_keys.2 ⟨definition, hget⟩
  obtain ⟨entry, hentry⟩ := Dictionary.mem_keys.1 hname
  obtain ⟨source, hsource, hresolve⟩ := Dictionary.exists_of_get?_traverse htables hentry
  cases hsource.symm.trans hget
  exact ⟨entry, hentry, TableDefinition.elaborates_of_resolve hresolve⟩

/-- Two tables over notes that hide the column of their base; one of them has no ordering. -/
theorem catalog_iff_isValid_of_notes :
    let item : RecordShape := { properties := .ofList [
      ("Created", { type := .dateTime }), ("Id", { column := some "item_id", type := .integer })] }
    let note : RecordShape := { base := some "Item", properties := .ofList [
      ("Id", { column := some "note_id", type := .integer })] }
    let notes : TableDefinition :=
      { sql := "dbo.Notes", shape := "Note", fallbackOrdering := ["Id"] }
    let items : TableDefinition := { sql := "select * from items", shape := "Item" }
    let configuration : Configuration := {
      shapes := .ofList [("Item", item), ("Note", note)]
      tables := .ofList [("notes", notes), ("items", items)] }
    configuration.IsValid ∧ ∃ catalog, configuration.catalog = .ok catalog
      ∧ catalog.tables.keys = ["items", "notes"]
      ∧ (∃ entry, catalog.table? "notes" = some entry
        ∧ entry.table.columns.get? "Id" = some "note_id"
        ∧ entry.table.columns.get? "Created" = some "Created"
        ∧ entry.table.fallback ≠ none)
      ∧ ∃ entry, catalog.table? "items" = some entry ∧ entry.table.fallback = none := by
  intro item note notes items configuration
  obtain ⟨hvalid, -, hcatalog⟩ := catalog_iff_isValid configuration
  have hok : configuration.catalog.isOk = true := by decide +kernel
  cases h : configuration.catalog with
  | error error =>
    rw [h] at hok
    cases hok
  | ok catalog =>
    obtain ⟨-, hkeys, htables⟩ := hcatalog catalog h
    obtain ⟨entry, hentry, hnotes⟩ := htables "notes" notes (by decide)
    obtain ⟨other, hother, hitems⟩ := htables "items" items (by decide)
    have hnote : configuration.shapes.shapeAt? "Note" 0 = some note := by decide
    have hitem : configuration.shapes.shapeAt? "Note" 1 = some item := by decide
    refine ⟨hvalid.1 ⟨catalog, h⟩, catalog, rfl, hkeys.trans (by decide),
      ⟨entry, hentry, (hnotes.columns _ _).2 ?_, (hnotes.columns _ _).2 ?_, ?_⟩,
      other, hother, hitems.fallback.2 rfl⟩
    · exact ⟨{ column := some "note_id", type := .integer }, ⟨0, note, hnote, rfl, nofun⟩, rfl⟩
    · refine ⟨{ type := .dateTime }, ⟨1, item, hitem, rfl, fun nearer hlt shape hshape => ?_⟩, rfl⟩
      obtain rfl : nearer = 0 := by omega
      cases hshape.symm.trans hnote
      rfl
    · intro hnone
      cases hnotes.fallback.1 hnone

/-! ## Cycles -/

/-- **The shape that an inheritance cycle is reported for.**  It is the shape that the search began
with, which gets to a shape that derives from itself; of a configuration it is the least shape that
cannot be flattened. -/
theorem inheritanceCycle_iff (configuration : Configuration) (shape : String) :
    (∀ name, configuration.shapes.resolve name = .error (.inheritanceCycle shape)
        ↔ shape = name ∧ ∃ steps other, configuration.shapes.ancestor? name steps = some other
          ∧ configuration.shapes.DerivesFromItself other)
      ∧ (configuration.catalog = .error (.inheritanceCycle shape)
        ↔ (∃ steps other, configuration.shapes.ancestor? shape steps = some other
            ∧ configuration.shapes.DerivesFromItself other)
          ∧ ∀ other ∈ configuration.shapes.keys, other < shape →
            configuration.shapes.IsRooted other) := by
  simp only [← Shapes.recurs_iff]
  refine ⟨fun name => Shapes.resolve_eq_inheritanceCycle, fun h => ?_, fun ⟨hrecurs, hleast⟩ => ?_⟩
  · rcases catalog_eq_error.1 h with hshapes | ⟨hshapes, htables⟩
    · obtain ⟨name, -, hleast, cause, hcause, herror⟩ := checkShapes_keys_eq_error.1 hshapes
      rw [ofShape_eq_inheritanceCycle.1 herror.symm] at hcause
      obtain ⟨rfl, hrecurs⟩ := Shapes.resolve_eq_inheritanceCycle.1 hcause
      exact ⟨hrecurs, hleast⟩
    · -- no table is reported for a cycle, because its shape has been checked with the others
      obtain ⟨name, definition, -, hresolve⟩ := Dictionary.exists_of_traverse_eq_error htables
      rcases TableDefinition.cases_of_resolve_eq_error hresolve with
        herror | ⟨cause, hcause, herror⟩ | ⟨property, herror⟩
      · cases herror
      · rw [ofTable_eq_inheritanceCycle.1 herror.symm] at hcause
        obtain ⟨-, hrecurs⟩ := Shapes.resolve_eq_inheritanceCycle.1 hcause
        exact absurd (checkShapes_eq_ok.1 hshapes _ hrecurs.mem_keys) hrecurs.not_isRooted
      · cases herror
  · exact catalog_eq_error.2 (.inl (checkShapes_keys_eq_error.2 ⟨shape, hrecurs.mem_keys, hleast,
      _, Shapes.resolve_eq_inheritanceCycle.2 ⟨rfl, hrecurs⟩, rfl⟩))

/-- A leaf that derives from a loop is reported to derive from itself, which only the loop does. -/
theorem exists_inheritanceCycle_off_cycle :
    let shapes : Shapes := .ofList [("Leaf", { base := some "Loop", properties := .empty }),
      ("Loop", { base := some "Loop", properties := .empty })]
    let configuration : Configuration := { shapes := shapes }
    shapes.resolve "Leaf" = .error (.inheritanceCycle "Leaf")
      ∧ configuration.catalog = .error (.inheritanceCycle "Leaf")
      ∧ ¬ shapes.DerivesFromItself "Leaf" := by
  intro shapes configuration
  refine ⟨by decide +kernel, by decide +kernel, ?_⟩
  have hbase : shapes.base? "Loop" = some "Loop" := by decide
  have hloop (steps : Nat) : shapes.ancestor? "Leaf" (steps + 1) = some "Loop" := by
    induction steps with
    | zero => decide
    | succ steps ih => rw [Shapes.ancestor?, ih, Option.bind_some, hbase]
  rintro ⟨steps, hsteps⟩
  rw [hloop steps, Option.some_inj] at hsteps
  exact absurd hsteps (by decide)

end Configuration
end ODataQuery
