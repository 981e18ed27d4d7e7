import ODataQuery.Encoding.Query
import ODataQuery.Proofs.Encoding.Expression

/-!
# Queries and pipelines are read back from JSON

A query has all its parts in its JSON form, and null for a part that is absent.  An operation of a
pipeline stands beside its own name, and what is in it is read leniently; neither makes one form
stand for two things.

* `Query.ofJson?_toJson_iff`, `Operation.ofJson?_toJson_iff`, `Pipeline.ofJson?_toJson_iff`: what is
  read back are the queries and the pipelines whose filters have a JSON form.
* `queries_and_pipelines_read_back`: both together.
-/

set_option autoImplicit false

namespace ODataQuery

/-! ## Parts -/

theorem toCount?_countToJson (n : UInt64) : Json.toCount? (countToJson n) = some n := by
  simp [countToJson, Json.ofNat, Json.toCount?, Number.natural?_eq_some_iff]

/-- **An optional part is read back** exactly if it is absent or what it is can be read back, as long
as null is written for an absent part only. -/
theorem toOption?_optionToJson_iff {α : Type} {write : α → Json} {read : Json → Option α}
    (hnull : ∀ a, write a ≠ .null) {part : Option α} :
    Json.toOption? read (optionToJson write part) = some part
      ↔ ∀ a ∈ part, read (write a) = some a := by
  cases part with
  | none => simp [optionToJson, Json.toOption?]
  | some a =>
    rw [optionToJson, Json.toOption?.eq_2 read (write a) (hnull a)]
    simp

theorem Expression.toJson_ne_null (e : Expression) : e.toJson ≠ .null := by
  cases e <;> simp [toJson]

theorem toOption?_countToJson (count : Option UInt64) :
    Json.toOption? Json.toCount? (optionToJson countToJson count) = some count :=
  (toOption?_optionToJson_iff (by simp [countToJson, Json.ofNat])).2 fun n _ =>
    toCount?_countToJson n

theorem SortKey.ofJson?_object (strictness : Json.Strictness) (key : SortKey) :
    ofJson? strictness (.object key.toFields) = some key := by
  have hdirection : Direction.ofJson? strictness (.string key.direction.keyword)
      = some key.direction :=
    Json.oneOf?_string strictness (by cases key.direction <;> rfl)
  simp [toFields, ofJson?, hdirection]

/-! ## Queries -/

namespace Query

/-- The filter of the query has a JSON form. -/
def HasJsonForm (query : Query) : Prop :=
  ∀ filter ∈ query.filter, filter.HasJsonForm

/-- **A query is read back** exactly if its filter has a JSON form. -/
theorem ofJson?_toJson_iff (query : Query) :
    ofJson? query.toJson = some query ↔ query.HasJsonForm := by
  obtain ⟨filter, orderBy, skip, top, inlineCount⟩ := query
  have hfilter : Json.toOption? (Expression.ofJson? .strict)
      (optionToJson Expression.toJson filter) = some filter ↔ ∀ e ∈ filter, e.HasJsonForm := by
    rw [toOption?_optionToJson_iff Expression.toJson_ne_null]
    exact forall₂_congr fun e _ => e.ofJson?_toJson_iff .strict
  have horderBy : Json.toList? (SortKey.ofJson? .strict) (.array (orderBy.map SortKey.toJson))
      = some orderBy :=
    Json.toList?_array_iff.2 fun key _ => key.ofJson?_object .strict
  have hinlineCount : InlineCount.ofJson? (.string inlineCount.keyword) = some inlineCount :=
    Json.oneOf?_string .strict (by cases inlineCount <;> rfl)
  rw [HasJsonForm, ← hfilter]
  simp [toJson, ofJson?, Option.bind_eq_some_iff, horderBy, toOption?_countToJson, hinlineCount]

end Query

/-! ## Pipelines -/

theorem Source.ofJson?_toJson (source : Source) : ofJson? source.toJson = some source := by
  cases source <;> simp [toJson, ofJson?, Json.isBare]

namespace Operation

/-- The predicate of a filter has a JSON form. -/
def HasJsonForm : Operation → Prop
  | filter predicate => predicate.HasJsonForm
  | _ => True

theorem operation_not_mem_toFields (operation : Operation) :
    "operation" ∉ operation.toFields.map Prod.fst := by
  cases operation <;> simp [toFields, SortKey.toFields]

theorem ofField?_object {α : Type} (name : String) (read : Json → Option α) (make : α → Operation)
    (value : Json) : ofField? name read make (.object [(name, value)]) = (read value).map make := by
  simp [ofField?]

/-- The name of an operation says how its fields are read. -/
theorem ofJson?_toJson (operation : Operation) :
    ofJson? operation.toJson = ofContent? operation.name (.object operation.toFields) := by
  rw [toJson, ofJson?, Json.tagged?_cons operation.operation_not_mem_toFields]
  rfl

/-- **An operation is read back** exactly if its predicate, where it has one, has a JSON form. -/
theorem ofJson?_toJson_iff (operation : Operation) :
    ofJson? operation.toJson = some operation ↔ operation.HasJsonForm := by
  rw [ofJson?_toJson]
  cases operation with
  | filter predicate =>
    simp [name, toFields, ofContent?, ofField?_object, predicate.ofJson?_toJson_iff, HasJsonForm]
  | orderBy key | thenBy key =>
    simp [name, toFields, ofContent?, key.ofJson?_object, HasJsonForm]
  | skip n | take n =>
    simp [name, toFields, ofContent?, ofField?_object, toCount?_countToJson, HasJsonForm]
  | select _ | groupBy _ =>
    simp [name, toFields, ofContent?, ofField?_object, HasJsonForm]
  | toList | count | first | any | distinct | reverse =>
    simp [name, ofContent?, ofBare?, Json.isBare, HasJsonForm]

end Operation

namespace Pipeline

/-- The predicates of all filters have a JSON form. -/
def HasJsonForm (pipeline : Pipeline) : Prop :=
  ∀ operation ∈ pipeline.operations, operation.HasJsonForm

/-- **A pipeline is read back** exactly if its predicates have a JSON form. -/
theorem ofJson?_toJson_iff (pipeline : Pipeline) :
    ofJson? pipeline.toJson = some pipeline ↔ pipeline.HasJsonForm := by
  have hoperations : Json.toList? Operation.ofJson? (.array (pipeline.operations.map
      Operation.toJson)) = some pipeline.operations ↔ pipeline.HasJsonForm := by
    rw [Json.toList?_array_iff]
    exact forall₂_congr fun operation _ => operation.ofJson?_toJson_iff
  rw [← hoperations]
  obtain ⟨source, operations⟩ := pipeline
  simp [toJson, ofJson?, Option.bind_eq_some_iff, source.ofJson?_toJson]

end Pipeline

/-- **Queries and pipelines are read back from JSON** exactly if all doubles in their filters are
finite.  So one without doubles is read back, however deep its filters, whatever their strings, and
over the whole range of integers, counts and points of time. -/
theorem queries_and_pipelines_read_back :
    (∀ pipeline : Pipeline, Pipeline.ofJson? pipeline.toJson = some pipeline
        ↔ ∀ predicate, .filter predicate ∈ pipeline.operations → predicate.HasJsonForm)
      ∧ ∀ query : Query, Query.ofJson? query.toJson = some query
        ↔ ∀ filter ∈ query.filter, filter.HasJsonForm := by
  refine ⟨fun pipeline => ?_, Query.ofJson?_toJson_iff⟩
  rw [Pipeline.ofJson?_toJson_iff, Pipeline.HasJsonForm]
  constructor
  · exact fun h predicate hpredicate => h (.filter predicate) hpredicate
  · intro h operation hoperation
    cases operation with
    | filter predicate => exact h predicate hoperation
    | _ => trivial

end ODataQuery
