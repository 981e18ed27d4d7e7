import ODataQuery.Proofs.Dictionary
import ODataQuery.Proofs.Sql.Meaning
import ODataQuery.Records.Binding

/-!
# Records as rows of a table

A table that holds records has a column for each property of their shape.

* `Binding.row`: the row of a record, with the columns that its schema names.
* `Scope.Shows`: every property's column holds what is read from the record.
* `Scope.shows_row`: the row of a record shows it, if no two properties share a column.
-/

set_option autoImplicit false

namespace ODataQuery

variable {ρ : Type}

/-- The names of the columns that hold the properties of a schema. -/
def Schema.columnNames (schema : Schema) : List String :=
  schema.properties.entries.map fun entry => entry.2.columnName entry.1

namespace Binding

/-- The row that holds a record. -/
def row (binding : Binding ρ) (record : ρ) : Sql.Row :=
  binding.properties.entries.map fun entry =>
    (entry.2.property.columnName entry.1, entry.2.read record)

theorem map_fst_row (binding : Binding ρ) (record : ρ) :
    (binding.row record).map Prod.fst = binding.schema.columnNames := by
  rw [row, Schema.columnNames, schema, Dictionary.mapValues, List.map_map, List.map_map]
  rfl

end Binding

namespace Sql

/-- A row shows a record if the column of each property holds what is read from the record. -/
def Scope.Shows (scope : Scope) (table : Table) (binding : Binding ρ) (record : ρ) : Prop :=
  ∀ name column read, table.columns.get? name = some column → binding.reader? name = some read →
    scope.column (.byAlias Table.tableAlias) column = read record

/-- **The row of a record shows it**, if no two properties share a column. -/
theorem Scope.shows_row {binding : Binding ρ} (hdistinct : binding.schema.columnNames.Nodup)
    {table : Table} {dialect : Dialect}
    (hcolumns : table.columns = (Table.ofSchema dialect binding.schema).columns) (record : ρ)
    (rowNumber : List (Term × Direction) → Value) (rowCount : Value) :
    (Scope.mk Table.tableAlias (binding.row record) rowNumber rowCount).Shows
      table binding record := by
  intro name column read hcolumn hread
  rw [hcolumns, Table.ofSchema, Binding.schema, Dictionary.get?_mapValues,
    Dictionary.get?_mapValues, Option.map_map, Option.map_eq_some_iff] at hcolumn
  obtain ⟨bound, hbound, rfl⟩ := hcolumn
  rw [Binding.reader?, hbound] at hread
  cases hread
  have hmem : (bound.property.columnName name, bound.read record) ∈ binding.row record :=
    List.mem_map_of_mem (f := fun entry : String × BoundProperty ρ =>
      (entry.2.property.columnName entry.1, entry.2.read record))
      (Dictionary.mem_entries_of_get? hbound)
  rw [← Binding.map_fst_row binding record] at hdistinct
  rw [Scope.column, if_pos rfl]
  show (List.lookup (bound.property.columnName name) (binding.row record)).getD .null = _
  rw [lookup_of_mem hdistinct hmem, Option.getD_some]

end Sql
end ODataQuery
