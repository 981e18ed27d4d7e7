import ODataQuery.Proofs.Configuration.Catalog
import ODataQuery.Proofs.QueryString.Parameters
import ODataQuery.Proofs.Records.Selection
import ODataQuery.Proofs.Sql.Faults

/-!
# Parsed queries over validated tables

A property has to be known in many places: where a query is read, where a column is looked up, where
a page is sorted by the ordering of its table, and where a record is read.  All of them go back to
one schema, so a query that was read against the schema of a validated table fails nowhere for want
of a name.

* `CatalogTable.WellFormed.unsupported_of_filterCondition`: a filter can only have a form without
  SQL.
* `CatalogTable.WellFormed.pageKeys_eq_error`: a page can only lack an ordering.
* `Configuration.catalog_answers_parsed_queries`: so these are all the ways in which such a query
  can fail.
-/

set_option autoImplicit false

namespace ODataQuery

namespace CatalogTable.WellFormed

variable {entry : CatalogTable} {query : Query} {error : Sql.SqlError}

/-- A filter over the schema fails by its form only. -/
theorem unsupported_of_filterCondition (h : entry.WellFormed) (hsuits : query.Suits entry.schema)
    (herror : entry.table.filterCondition query.filter = .error error) :
    ∃ what, error = .unsupported what := by
  cases hfilter : query.filter with
  | none =>
    rw [hfilter] at herror
    cases herror
  | some filter =>
    rw [hfilter] at herror
    have htype := Expression.checkPredicate_eq_ok.1 (hsuits.filter filter hfilter)
    exact Sql.Table.unsupported_of_condition (fun _ => h.isSome_column) htype herror

/-- An ordering by properties of the schema has keys. -/
theorem exists_keys (h : entry.WellFormed) {keys : List SortKey}
    (hknown : ∀ key ∈ keys, (entry.schema.property? key.property).isSome) :
    ∃ terms, entry.table.keys keys = .ok terms :=
  Sql.Table.exists_keys fun key hkey => h.isSome_column (hknown key hkey)

/-- A page fails only if it has no ordering and neither has the table. -/
theorem pageKeys_eq_error (h : entry.WellFormed) (hsuits : query.Suits entry.schema) :
    entry.table.pageKeys query = .error error
      ↔ query.needsFallback = true ∧ entry.table.fallback = none ∧ error = .unorderedPage := by
  rw [Sql.Table.pageKeys]
  cases query.needsFallback with
  | false =>
    obtain ⟨terms, hterms⟩ := h.exists_keys hsuits.orderBy
    simp [hterms]
  | true =>
    rw [if_pos rfl, Sql.Table.fallbackKeys]
    split
    · rename_i hnone
      simp [hnone, eq_comm]
    · rename_i hempty
      exact absurd hempty h.nonempty
    · rename_i properties _ hproperties
      obtain ⟨terms, hterms⟩ : ∃ terms,
          entry.table.keys (properties.map fun property => ⟨property, .asc⟩) = .ok terms := by
        refine h.exists_keys fun key hkey => ?_
        obtain ⟨property, hproperty, rfl⟩ := List.mem_map.1 hkey
        exact h.known properties hproperties property hproperty
      simp [hterms, hproperties]

/-- **All the ways in which a query over the schema has no plan.** -/
theorem plan_eq_error (h : entry.WellFormed) (hsuits : query.Suits entry.schema)
    (herror : entry.table.plan entry.baseSql query = .error error) :
    (∃ what, error = .unsupported what) ∨ error = .unorderedPage := by
  rcases Sql.Table.plan_eq_error.1 herror with ⟨hbase, -⟩ | ⟨-, hcondition | ⟨-, hkeys⟩⟩
  · rw [h.base] at hbase
    cases hbase
  · exact .inl (h.unsupported_of_filterCondition hsuits hcondition)
  · exact .inr ((h.pageKeys_eq_error hsuits).1 hkeys).2.2

end CatalogTable.WellFormed

/-- **A parsed query and a validated table agree.**  SQL fails for it by the form of its filter, or
because it takes a page and neither the query nor the table has an ordering; records that have the
properties of the schema answer it in any case. -/
theorem Configuration.catalog_answers_parsed_queries {configuration : Configuration}
    {catalog : Catalog} (hcatalog : configuration.catalog = .ok catalog) {name : String}
    {entry : CatalogTable} (hentry : catalog.table? name = some entry)
    {pairs : List (String × String)} {query : Query}
    (hparse : Query.parse entry.schema pairs = .ok query) :
    (∀ property, entry.table.plan entry.baseSql query ≠ .error (.unmappedProperty property))
      ∧ entry.table.plan entry.baseSql query ≠ .error .blankBase
      ∧ (entry.table.plan entry.baseSql query = .error .unorderedPage
        ↔ (∀ filter ∈ query.filter, ∃ condition, entry.table.condition filter = .ok condition)
          ∧ query.isPaged = true ∧ query.top ≠ some 0 ∧ query.orderBy = []
          ∧ entry.table.fallback = none)
      ∧ (∀ error, entry.table.plan entry.baseSql query = .error error →
        error = .unorderedPage ∨ ∃ what, error = .unsupported what)
      ∧ ∀ {ρ : Type} (binding : Binding ρ),
        (∀ property, (entry.schema.property? property).isSome →
          (binding.reader? property).isSome) →
        ∃ application, query.apply binding = .ok application := by
  have hentry := Catalog.wellFormed hcatalog hentry
  have hsuits := Query.suits_of_parse hparse
  refine ⟨fun property h => ?_, fun h => ?_, ?_, fun error h => ?_, fun binding hbinding => ?_⟩
  · rcases hentry.plan_eq_error hsuits h with ⟨what, hwhat⟩ | hpage
    · cases hwhat
    · cases hpage
  · rcases hentry.plan_eq_error hsuits h with ⟨what, hwhat⟩ | hpage
    · cases hwhat
    · cases hpage
  · have hform : entry.table.filterCondition query.filter ≠ .error .unorderedPage := by
      intro h
      obtain ⟨what, hwhat⟩ := hentry.unsupported_of_filterCondition hsuits h
      cases hwhat
    simp [Sql.Table.plan_eq_error, hentry.base, hform, hentry.pageKeys_eq_error hsuits,
      Sql.Table.exists_filterCondition_iff, Query.needsFallback_iff, and_assoc]
  · exact (hentry.plan_eq_error hsuits h).symm
  · refine Query.exists_apply_of_readable ⟨fun filter hfilter property hproperty => ?_,
      fun key hkey => hbinding key.property (hsuits.orderBy key hkey)⟩
    have htype := Expression.checkPredicate_eq_ok.1 (hsuits.filter filter hfilter)
    exact hbinding property (Expression.isSome_property_of_infer htype hproperty)

/-- A page of a table without an ordering: it has no plan, and records answer it. -/
theorem Configuration.catalog_answers_parsed_queries_of_unordered_page :
    let schema : Schema := ⟨"Note", .ofList [("Done", { type := .boolean }),
      ("Id", { column := some "note_id", type := .integer })]⟩
    let configuration : Configuration := {
      shapes := .ofList [
        ("Item", { properties := .ofList [
          ("Id", { column := some "note_id", type := .integer })] }),
        ("Note", { base := some "Item", properties := .ofList [("Done", { type := .boolean })] })]
      tables := .ofList [("notes", { sql := "dbo.Notes", shape := "Note" })] }
    let entry : CatalogTable := ⟨"dbo.Notes", schema, .ofSchema .sqlServer schema⟩
    let binding : Binding (String → Value) := .ofSchema schema fun name record => record name
    ∃ catalog query, configuration.catalog = .ok catalog ∧ catalog.table? "notes" = some entry
      ∧ Query.parse schema [("$filter", "not Done"), ("$skip", "2")] = .ok query
      ∧ entry.table.plan entry.baseSql query = .error .unorderedPage
      ∧ ∃ application, query.apply binding = .ok application := by
  intro schema configuration entry binding
  have hcatalog : configuration.catalog = .ok ⟨.sqlServer, .ofList [("notes", entry)]⟩ := by
    decide +kernel
  have hentry : (Dictionary.ofList [("notes", entry)]).get? "notes" = some entry := by
    decide
  have hparts : (Query.parse schema [("$filter", "not Done"), ("$skip", "2")]).map (fun query =>
      (query.filter.all fun filter => (entry.table.condition filter).isOk, query.isPaged, query.top,
        query.orderBy)) = .ok (true, true, none, []) := by
    decide +kernel
  obtain ⟨query, hparse, hparts⟩ := map_eq_ok.1 hparts
  simp only [Prod.mk.injEq] at hparts
  obtain ⟨hfilter, hpaged, htop, horder⟩ := hparts
  obtain ⟨-, -, hpage, -, hrecords⟩ := catalog_answers_parsed_queries hcatalog hentry hparse
  refine ⟨_, query, hcatalog, hentry, hparse,
    hpage.2 ⟨fun filter hmem => ?_, hpaged, by simp [htop], horder, rfl⟩,
    hrecords binding fun property h => ?_⟩
  · rw [hmem, Option.all_some] at hfilter
    cases hcondition : entry.table.condition filter with
    | ok condition => exact ⟨condition, rfl⟩
    | error error =>
      rw [hcondition] at hfilter
      cases hfilter
  · rw [Binding.isSome_reader?]
    exact h

end ODataQuery
