import ODataQuery.Proofs.QueryString.Orderings
import ODataQuery.Proofs.QueryString.Printing
import ODataQuery.QueryString.Parameters

/-!
# What parsed queries say about a schema

Names are looked up while a query is read.  So what comes out of it names only properties of the
schema, and its filter is a condition over it.

* `Query.Suits`: the filter and the ordering of a query are about a schema.
* `Filter.checkPredicate_of_parse`, `OrderBy.named_of_parse`: what is read is.
* `Query.suits_of_parse`: and so is a whole query.
-/

set_option autoImplicit false

namespace ODataQuery

/-- The filter is a condition over the schema, and the ordering is by its properties. -/
structure Query.Suits (schema : Schema) (query : Query) : Prop where
  filter : ∀ filter ∈ query.filter, filter.checkPredicate schema = .ok ()
  orderBy : ∀ key ∈ query.orderBy, (schema.property? key.property).isSome

variable {schema : Schema}

/-- A filter that is read is a condition. -/
theorem Filter.checkPredicate_of_parse {text : String} {filter : Expression}
    (h : Filter.parse schema text = .ok filter) : filter.checkPredicate schema = .ok () := by
  obtain ⟨tokens, marked, -, -, -, htype, -⟩ := derives_of_parse h
  exact Expression.checkPredicate_eq_ok.2 htype

/-! ## Orderings -/

namespace OrderBy

/-- The keys that are read name properties of the schema by identifiers, whatever stands between
them. -/
theorem named_of_ofTokens {endPosition : Nat} {tokens : List Token} {keys : List SortKey}
    (h : ofTokens schema endPosition tokens = .ok keys) :
    ∀ key ∈ keys, (schema.property? key.property).isSome
      ∧ .identifier key.property ∈ tokens.map Token.kind := by
  obtain ⟨phrases, -, hkinds, hknown, rfl⟩ := ofTokens_eq_ok_iff.1 h
  refine List.forall_mem_map.2 fun phrase hphrase => ⟨hknown phrase hphrase, ?_⟩
  rw [hkinds]
  exact mem_kindsOf hphrase List.mem_cons_self

/-- **An ordering that is read names properties of the schema**, and their names can be spelled. -/
theorem named_of_parse {text : String} {keys : List SortKey}
    (h : OrderBy.parse schema text = .ok keys) :
    ∀ key ∈ keys, (schema.property? key.property).isSome ∧ Lexer.isName key.property = true := by
  obtain ⟨tokens, htokens, h⟩ := bind_eq_ok.1 h
  intro key hkey
  obtain ⟨hknown, hmem⟩ := named_of_ofTokens h key hkey
  exact ⟨hknown, Lexer.isName_of_tokenize htokens hmem⟩

end OrderBy

/-! ## Queries -/

/-- What is read of a parameter is read from some text. -/
theorem Parameters.exists_text_of_read {α : Type} {parameters : Parameters} {parameter : Parameter}
    {reader : String → Except Failure α} {value : α}
    (h : parameters.read parameter reader = .ok (some value)) :
    ∃ text, reader text = .ok value := by
  rw [read] at h
  split at h
  · cases h
  · rename_i text _
    split at h
    · rename_i hread
      cases h
      exact ⟨text, hread⟩
    · cases h

/-- The filter of a query that is read is read from some text, and so is its ordering if it has
one. -/
theorem Query.exists_texts_of_parse {pairs : List (String × String)} {query : Query}
    (h : Query.parse schema pairs = .ok query) :
    (∀ filter ∈ query.filter, ∃ text, Filter.parse schema text = .ok filter)
      ∧ (query.orderBy ≠ [] → ∃ text, OrderBy.parse schema text = .ok query.orderBy) := by
  obtain ⟨parameters, -, h⟩ := bind_eq_ok.1 h
  rw [Query.ofParameters] at h
  obtain ⟨filter, hfilter, h⟩ := bind_eq_ok.1 h
  obtain ⟨orderBy, horderBy, h⟩ := bind_eq_ok.1 h
  obtain ⟨skip, -, h⟩ := bind_eq_ok.1 h
  obtain ⟨top, -, h⟩ := bind_eq_ok.1 h
  obtain ⟨inlineCount, -, h⟩ := bind_eq_ok.1 h
  cases h
  refine ⟨fun condition hcondition => ?_, fun hne => ?_⟩
  · obtain rfl : filter = some condition := hcondition
    exact Parameters.exists_text_of_read hfilter
  · cases orderBy with
    | none => exact absurd rfl hne
    | some keys => exact Parameters.exists_text_of_read horderBy

/-- **A query that is read sorts by names** of properties of the schema. -/
theorem Query.named_of_parse {pairs : List (String × String)} {query : Query}
    (h : Query.parse schema pairs = .ok query) :
    ∀ key ∈ query.orderBy,
      (schema.property? key.property).isSome ∧ Lexer.isName key.property = true := by
  intro key hkey
  obtain ⟨text, htext⟩ := (exists_texts_of_parse h).2 (List.ne_nil_of_mem hkey)
  exact OrderBy.named_of_parse htext key hkey

/-- **A query that is read suits the schema.** -/
theorem Query.suits_of_parse {pairs : List (String × String)} {query : Query}
    (h : Query.parse schema pairs = .ok query) : query.Suits schema where
  filter condition hcondition := by
    obtain ⟨text, htext⟩ := (exists_texts_of_parse h).1 condition hcondition
    exact Filter.checkPredicate_of_parse htext
  orderBy key hkey := (named_of_parse h key hkey).1

end ODataQuery
