import ODataQuery.Proofs.Expression.Typing
import ODataQuery.Proofs.Sql.Plan

/-!
# What keeps a query from becoming SQL

Besides a blank base, three things do: a form that has no SQL, a property that no column holds, and
a page without any ordering.

* `Table.FaultOf`: what is wrong with an expression; `Table.faultOf_scalar` and
  `Table.faultOf_condition` say that nothing else can be, by induction over the two positions of an
  expression.
* `Table.unsupported_of_condition`: a typed filter has properties with columns, so it fails by its
  form.
* `Table.keys_eq_error`, `Table.fallbackKeys_eq_error`: orderings fail by the first of their
  properties that no column holds, or because there is none.
-/

set_option autoImplicit false

namespace ODataQuery
namespace Sql
namespace Table

variable {table : Table} {error : SqlError}

/-! ## Filters -/

/-- The error is about a form that has no SQL, or about a property of the expression that no column
holds. -/
def FaultOf (table : Table) (e : Expression) (error : SqlError) : Prop :=
  (∃ what, error = .unsupported what)
    ∨ ∃ name, .property name ∈ e.parts ∧ table.columns.get? name = none
      ∧ error = .unmappedProperty name

theorem FaultOf.of_subset {part e : Expression} (h : table.FaultOf part error)
    (hparts : part.parts ⊆ e.parts) : table.FaultOf e error := by
  rcases h with hform | ⟨name, hname, hcolumn, rfl⟩
  · exact .inl hform
  · exact .inr ⟨name, hparts hname, hcolumn, rfl⟩

theorem column_eq_error {name : String} (h : table.column name = .error error) :
    table.columns.get? name = none ∧ error = .unmappedProperty name := by
  rw [column] at h
  split at h
  · cases h
  · rename_i hcolumn
    cases h
    exact ⟨hcolumn, rfl⟩

theorem faultOf_property {name : String} (h : table.column name = .error error) :
    table.FaultOf (.property name) error := by
  obtain ⟨hcolumn, rfl⟩ := column_eq_error h
  exact .inr ⟨name, Expression.self_mem_parts _, hcolumn, rfl⟩

theorem exists_faultOf_arg {args : List Expression} (h : table.scalars args = .error error)
    (hargs : ∀ arg ∈ args, table.scalar arg = .error error → table.FaultOf arg error) :
    ∃ arg ∈ args, table.FaultOf arg error := by
  induction args with
  | nil => rw [scalars] at h; cases h
  | cons arg rest ih =>
    simp only [scalars, bind_eq_error, reduceCtorEq, and_false, exists_false, or_false] at h
    rcases h with h | ⟨-, -, h⟩
    · exact ⟨arg, List.mem_cons_self, hargs arg List.mem_cons_self h⟩
    · obtain ⟨other, hother, hfault⟩ := ih h fun other hother => hargs other (.tail _ hother)
      exact ⟨other, .tail _ hother, hfault⟩

/-- **What can be wrong with an operand.** -/
theorem faultOf_scalar {e : Expression} (h : table.scalar e = .error error) :
    table.FaultOf e error := by
  induction e using Expression.induction with
  | literal value => rw [scalar] at h; cases h
  | property name =>
    rw [scalar] at h
    exact faultOf_property h
  | not operand _ =>
    rw [scalar] at h
    cases h
    exact .inl ⟨_, rfl⟩
  | binary left operator right ihLeft ihRight =>
    cases operator with
    | comparison c | connective c =>
      rw [scalar] at h
      cases h
      exact .inl ⟨_, rfl⟩
    | arithmetic a =>
      simp only [scalar, bind_eq_error, reduceCtorEq, and_false, exists_false, or_false] at h
      rcases h with h | ⟨-, -, h⟩
      · exact (ihLeft h).of_subset (Expression.left_parts_subset _ _ _)
      · exact (ihRight h).of_subset (Expression.right_parts_subset _ _ _)
  | call function args ih =>
    simp only [scalar, bind_eq_error] at h
    rcases h with h | ⟨terms, -, h⟩
    · obtain ⟨arg, harg, hfault⟩ := exists_faultOf_arg h ih
      exact hfault.of_subset (Expression.arg_parts_subset _ harg)
    · -- the arguments are fine, so it is the function that has no scalar
      cases function with
      | length | change | whole => cases h
      | test test => cases h; exact .inl ⟨_, rfl⟩
      | part part =>
        rw [scalarCall] at h
        split at h
        · cases h
        · cases h
          exact .inl ⟨_, rfl⟩

theorem subject_mem_args {test : TextTest} {args : List Expression} {subject pattern : Expression}
    (h : testOperands? test args = some (subject, pattern)) : subject ∈ args := by
  unfold testOperands? at h
  split at h
  · cases test <;> cases h <;> simp
  · cases h

theorem faultOf_likeCondition {test : TextTest} {args : List Expression}
    (h : table.likeCondition test args = .error error) :
    table.FaultOf (.call (.test test) args) error := by
  rw [likeCondition] at h
  split at h
  · cases h
    exact .inl ⟨_, rfl⟩
  · rename_i subject pattern hoperands
    have hsubject (h : table.scalar subject = .error error) :
        table.FaultOf (.call (.test test) args) error :=
      (faultOf_scalar h).of_subset (Expression.arg_parts_subset _ (subject_mem_args hoperands))
    split at h <;> simp only [bind_eq_error, reduceCtorEq, and_false, exists_false, or_false,
      false_or, Except.ok.injEq, exists_eq_left', Except.error.injEq, false_and] at h
    · exact hsubject h
    · exact hsubject h
    · exact .inl ⟨_, h.symm⟩

theorem faultOf_comparison {left right : Expression} {c : Comparison}
    (h : table.comparison left c right = .error error) :
    table.FaultOf (.binary left (.comparison c) right) error := by
  have hleft (h : table.scalar left = .error error) :
      table.FaultOf (.binary left (.comparison c) right) error :=
    (faultOf_scalar h).of_subset (Expression.left_parts_subset _ _ _)
  have hright (h : table.scalar right = .error error) :
      table.FaultOf (.binary left (.comparison c) right) error :=
    (faultOf_scalar h).of_subset (Expression.right_parts_subset _ _ _)
  rw [comparison] at h
  split at h <;> simp only [bind_eq_error, reduceCtorEq, and_false, exists_false, or_false] at h
  · rename_i side negated _
    cases side with
    | left => exact hleft h
    | right => exact hright h
  · rcases h with h | ⟨-, -, h⟩
    · exact hleft h
    · exact hright h

/-- **What can be wrong with a filter.** -/
theorem faultOf_condition {e : Expression} (h : table.condition e = .error error) :
    table.FaultOf e error := by
  induction e using Expression.induction with
  | literal value =>
    cases value <;> simp only [condition, reduceCtorEq, Except.error.injEq] at h
    all_goals exact .inl ⟨_, h.symm⟩
  | property name =>
    simp only [condition, bind_eq_error, reduceCtorEq, and_false, exists_false, or_false] at h
    exact faultOf_property h
  | not operand ih =>
    rw [condition, map_eq_error] at h
    exact (ih h).of_subset (Expression.operand_parts_subset _)
  | binary left operator right ihLeft ihRight =>
    cases operator with
    | comparison c =>
      rw [condition] at h
      exact faultOf_comparison h
    | connective c =>
      cases c <;>
        simp only [condition, bind_eq_error, reduceCtorEq, and_false, exists_false, or_false] at h
      all_goals
        rcases h with h | ⟨-, -, h⟩
        · exact (ihLeft h).of_subset (Expression.left_parts_subset _ _ _)
        · exact (ihRight h).of_subset (Expression.right_parts_subset _ _ _)
    | arithmetic a =>
      rw [condition] at h
      cases h
      exact .inl ⟨_, rfl⟩
  | call function args _ =>
    cases function with
    | test test =>
      rw [condition] at h
      exact faultOf_likeCondition h
    | _ =>
      simp only [condition, Except.error.injEq] at h
      exact .inl ⟨_, h.symm⟩

/-- **A typed filter fails by its form only**, in a table with a column for every property of the
schema. -/
theorem unsupported_of_condition {schema : Schema}
    (hmapped : ∀ name, (schema.property? name).isSome → (table.columns.get? name).isSome)
    {e : Expression} {type : StaticType} (htype : e.infer schema = .ok type)
    (h : table.condition e = .error error) : ∃ what, error = .unsupported what := by
  rcases faultOf_condition h with hform | ⟨name, hname, hcolumn, -⟩
  · exact hform
  · have hsome := hmapped name (Expression.isSome_property_of_infer htype hname)
    rw [hcolumn] at hsome
    cases hsome

/-! ## Orderings -/

/-- The first of some properties that no column holds. -/
def firstUnmapped? (table : Table) (properties : List String) : Option String :=
  properties.find? fun property => (table.columns.get? property).isNone

theorem firstUnmapped?_cons (table : Table) (property : String) (rest : List String) :
    table.firstUnmapped? (property :: rest)
      = if (table.columns.get? property).isNone then some property
        else table.firstUnmapped? rest := by
  rw [firstUnmapped?, List.find?_cons]
  cases (table.columns.get? property).isNone <;> rfl

/-- **An ordering fails by the first of its properties that no column holds**, and by nothing
else. -/
theorem keys_eq_error {keys : List SortKey} : table.keys keys = .error error
    ↔ ∃ property, table.firstUnmapped? (keys.map SortKey.property) = some property
      ∧ error = .unmappedProperty property := by
  induction keys with
  | nil => simp [Table.keys, firstUnmapped?]
  | cons key rest ih =>
    simp only [Table.keys, bind_eq_error, reduceCtorEq, and_false, exists_false, or_false, ih]
    rw [List.map_cons, firstUnmapped?_cons, column]
    cases table.columns.get? key.property <;> simp [eq_comm]

/-- An ordering by properties with columns has keys. -/
theorem exists_keys {keys : List SortKey}
    (h : ∀ key ∈ keys, (table.columns.get? key.property).isSome) :
    ∃ terms, table.keys keys = .ok terms := by
  cases hkeys : table.keys keys with
  | ok terms => exact ⟨terms, rfl⟩
  | error error =>
    obtain ⟨property, hfirst, -⟩ := keys_eq_error.1 hkeys
    obtain ⟨key, hkey, rfl⟩ := List.mem_map.1 (List.mem_of_find?_eq_some hfirst)
    have hnone := List.find?_some hfirst
    rw [Option.isNone_iff_eq_none] at hnone
    have hsome := h key hkey
    rw [hnone] at hsome
    cases hsome

/-- The ordering of a table fails if there is none, or by the first of its properties that no column
holds. -/
theorem fallbackKeys_eq_error : table.fallbackKeys = .error error
    ↔ ((table.fallback = none ∨ table.fallback = some []) ∧ error = .unorderedPage)
      ∨ ∃ properties property, table.fallback = some properties
        ∧ table.firstUnmapped? properties = some property
        ∧ error = .unmappedProperty property := by
  rw [fallbackKeys]
  split
  · rename_i hnone
    simp [hnone, eq_comm]
  · rename_i hempty
    simp [hempty, firstUnmapped?, eq_comm]
  · rename_i properties hnonempty hproperties
    have hne : properties ≠ [] := hnonempty
    simp [keys_eq_error, hproperties, hne, Function.comp_def]

end Table
end Sql
end ODataQuery
