import ODataQuery.Proofs.Deferred.Continuation
import ODataQuery.Proofs.QueryString.Parameters
import ODataQuery.Proofs.QueryString.Spelling

/-!
# What queries are sorted by

A key of an ordering has to name a property of the schema.  Nothing else is asked of it: neither
query strings nor pipelines look at the type of the property, so both sort by properties whose
values are not ordered, which comparisons by size refuse.

* `SortKey.IsOrdered`: the property of a key has values that are ordered.
* `OrderBy.kinds`, `OrderBy.text`: an ordering as tokens and as a text; `OrderBy.parse_text`: it is
  read back.
* `Schema.readsOrdering_iff`: the orderings of the queries that are read.
* `Pipeline.suits_of_describe`, `Schema.describesOrdering_iff`: what the queries that pipelines
  describe say about the schema, and their orderings.
* `Schema.sorts_by_any_property`: so only ordered properties are sorted by exactly where a schema
  has no others.
-/

set_option autoImplicit false

namespace ODataQuery

variable {schema : Schema} {keys : List SortKey}

/-- Some query that is read against the schema has the ordering. -/
def Schema.ReadsOrdering (schema : Schema) (keys : List SortKey) : Prop :=
  ∃ pairs query, Query.parse schema pairs = .ok query ∧ query.orderBy = keys

/-- Some query that a pipeline describes against the schema has the ordering. -/
def Schema.DescribesOrdering (schema : Schema) (keys : List SortKey) : Prop :=
  ∃ pipeline description, Pipeline.describe pipeline schema = .ok description
    ∧ description.query.orderBy = keys

/-- The property of the key is one of the schema, and its values are ordered. -/
def SortKey.IsOrdered (schema : Schema) (key : SortKey) : Prop :=
  ∃ type, schema.typeOf? key.property = some type ∧ type.isOrdered = true

/-! ## Orderings as texts -/

namespace OrderBy

/-- The tokens of an ordering, with all directions. -/
def kinds : List SortKey → List TokenKind
  | [] => []
  | [key] => [.identifier key.property, .identifier key.direction.keyword]
  | key :: rest =>
    .identifier key.property :: .identifier key.direction.keyword :: .comma :: kinds rest

/-- The tokens of an ordering, with a space after each. -/
def pieces (keys : List SortKey) : List Lexer.Piece :=
  (kinds keys).map fun kind => ⟨kind, [' ']⟩

/-- The text of an ordering. -/
def text (keys : List SortKey) : String :=
  String.ofList (Lexer.spelled (pieces keys))

theorem isSpellable_of_mem_kinds (hnames : ∀ key ∈ keys, Lexer.isName key.property = true) :
    ∀ kind ∈ kinds keys, kind.IsSpellable := by
  have hkeyword (direction : Direction) : Lexer.isName direction.keyword = true := by
    cases direction <;> decide
  fun_induction kinds keys with
  | case1 => exact List.forall_mem_nil _
  | case2 key =>
    rw [List.forall_mem_singleton] at hnames
    exact List.forall_mem_cons.2 ⟨hnames, List.forall_mem_singleton.2 (hkeyword _)⟩
  | case3 key rest _ ih =>
    obtain ⟨hkey, hrest⟩ := List.forall_mem_cons.1 hnames
    simp only [List.forall_mem_cons]
    exact ⟨hkey, hkeyword _, trivial, ih hrest⟩

theorem separated_pieces (hnames : ∀ key ∈ keys, Lexer.isName key.property = true) :
    Lexer.Separated (pieces keys) := by
  have hpieces : ∀ piece ∈ pieces keys, ∃ kind ∈ kinds keys, piece = ⟨kind, [' ']⟩ := by
    intro piece hpiece
    obtain ⟨kind, hkind, rfl⟩ := List.mem_map.1 hpiece
    exact ⟨kind, hkind, rfl⟩
  refine ⟨fun piece hpiece => ?_, fun piece hpiece => ?_, fun piece hpiece => ?_⟩
  · obtain ⟨kind, hkind, rfl⟩ := hpieces piece hpiece
    exact isSpellable_of_mem_kinds hnames kind hkind
  · obtain ⟨kind, -, rfl⟩ := hpieces piece hpiece
    exact List.forall_mem_singleton.2 (by decide)
  · obtain ⟨kind, -, rfl⟩ := hpieces piece (List.mem_of_mem_dropLast hpiece)
    exact List.cons_ne_nil _ _

/-- An ordering is written as the phrases of its keys, each with its direction. -/
theorem kinds_eq_kindsOf (keys : List SortKey) :
    kinds keys = kindsOf (keys.map fun key => ⟨key.property, some key.direction⟩) := by
  fun_induction kinds keys with
  | case1 => rfl
  | case2 key => rfl
  | case3 key rest hrest ih =>
    rw [List.map_cons, kindsOf_cons (mt List.map_eq_nil_iff.1 hrest), ← ih]
    rfl

/-- The tokens of an ordering are read as the ordering, wherever they stand. -/
theorem ofTokens_placed (hne : keys ≠ [])
    (hknown : ∀ key ∈ keys, (schema.property? key.property).isSome) (endPosition position : Nat) :
    ofTokens schema endPosition (Lexer.placed position (pieces keys)) = .ok keys := by
  have hkinds : (Lexer.placed position (pieces keys)).map Token.kind = kinds keys := by
    rw [Lexer.map_kind_placed, pieces, List.map_map]
    exact List.map_id _
  rw [kinds_eq_kindsOf] at hkinds
  rw [ofTokens_of_phrases (mt List.map_eq_nil_iff.1 hne) (List.forall_mem_map.2 hknown) hkinds,
    List.map_map]
  exact congrArg _ (List.map_id _)

/-- **The text of an ordering is read back**, whatever the types of its properties. -/
theorem parse_text (hne : keys ≠ [])
    (hkeys : ∀ key ∈ keys,
      (schema.property? key.property).isSome ∧ Lexer.isName key.property = true) :
    OrderBy.parse schema (text keys) = .ok keys := by
  have hpieces := separated_pieces fun key hkey => (hkeys key hkey).2
  have htext : (text keys).toList = [] ++ Lexer.spelled (pieces keys) := String.toList_ofList
  have hlead : ∀ c ∈ ([] : List Char), Text.isBlank c = true := List.forall_mem_nil _
  rw [(Lexer.tokenize_spelled hlead hpieces htext).2.2 schema]
  exact ofTokens_placed hne (fun key hkey => (hkeys key hkey).1) _ _

/-- A blank text is not read as an ordering. -/
theorem isBlankText_of_parse {text : String} (h : OrderBy.parse schema text = .ok keys) :
    Text.isBlankText text = false := by
  by_contra hblank
  have hblanks : ∀ c ∈ text.toList, Text.isBlank c = true :=
    List.all_eq_true.1 (Bool.eq_true_of_not_eq_false hblank)
  have hnothing : Lexer.Separated [] :=
    ⟨List.forall_mem_nil _, List.forall_mem_nil _, List.forall_mem_nil _⟩
  rw [(Lexer.tokenize_spelled hblanks hnothing (List.append_nil _).symm).2.2 schema] at h
  cases h

end OrderBy

/-! ## Orderings of queries -/

/-- A query string with an ordering alone is read as the ordering. -/
theorem Query.parse_orderBy {text : String} (h : OrderBy.parse schema text = .ok keys) :
    Query.parse schema [(Parameter.orderBy.key, text)] = .ok { orderBy := keys } := by
  have hadd : Parameters.add [] (Parameter.orderBy.key, text) = .ok [(.orderBy, text)] := by
    simp only [Parameters.add, Parameter.ofKey?_key, OrderBy.isBlankText_of_parse h]
    rfl
  have hcollect : Parameters.collect [(Parameter.orderBy.key, text)] = .ok [(.orderBy, text)] :=
    bind_eq_ok.2 ⟨_, hadd, rfl⟩
  have hread : Parameters.read [(.orderBy, text)] .orderBy (OrderBy.parse schema)
      = .ok (some keys) := by
    have hlookup : List.lookup Parameter.orderBy [(.orderBy, text)] = some text := rfl
    simp only [Parameters.read, hlookup, h]
  refine bind_eq_ok.2 ⟨_, hcollect, ?_⟩
  rw [Query.ofParameters, hread]
  rfl

/-- **The orderings of the queries that are read** are those by names of properties. -/
theorem Schema.readsOrdering_iff :
    schema.ReadsOrdering keys
      ↔ ∀ key ∈ keys,
        (schema.property? key.property).isSome ∧ Lexer.isName key.property = true := by
  constructor
  · rintro ⟨pairs, query, hparse, rfl⟩
    exact Query.named_of_parse hparse
  · intro hkeys
    cases keys with
    | nil => exact ⟨[], {}, rfl, rfl⟩
    | cons key rest =>
      exact ⟨_, _, Query.parse_orderBy (OrderBy.parse_text (List.cons_ne_nil key rest) hkeys), rfl⟩

/-- Operations that are allowed keep a query about the schema. -/
theorem Fold.suits_run {operations : List Operation} {index : Nat} {fold final : Fold}
    (hrun : run schema index fold operations = .ok final) (h : fold.query.Suits schema) :
    final.query.Suits schema := by
  induction operations generalizing index fold with
  | nil =>
    cases hrun
    exact h
  | cons operation rest ih =>
    obtain ⟨next, hstep, hrest⟩ := bind_eq_ok.1 hrun
    obtain ⟨-, hcheck, rfl⟩ := step_eq_ok.1 hstep
    exact ih hrest
      ⟨checkPredicate_apply hcheck h.filter, isSome_property_apply hcheck h.orderBy⟩

/-- **A query that a pipeline describes suits the schema.** -/
theorem Pipeline.suits_of_describe {pipeline : Pipeline} {description : Description}
    (h : pipeline.describe schema = .ok description) : description.query.Suits schema := by
  obtain ⟨fold, hrun, rfl⟩ := describe_eq_ok.1 h
  have hfold : fold.query.Suits schema := Fold.suits_run hrun ⟨nofun, nofun⟩
  exact ⟨hfold.filter, hfold.orderBy⟩

/-- It has no two keys of one property. -/
theorem Pipeline.nodup_of_describe {pipeline : Pipeline} {description : Description}
    (h : pipeline.describe schema = .ok description) :
    (description.query.orderBy.map SortKey.property).Nodup := by
  obtain ⟨fold, hrun, rfl⟩ := describe_eq_ok.1 h
  exact Fold.nodup_run hrun List.nodup_nil

/-- **The orderings of the queries that pipelines describe** are those by properties, each once. -/
theorem Schema.describesOrdering_iff :
    schema.DescribesOrdering keys
      ↔ (keys.map SortKey.property).Nodup
        ∧ ∀ key ∈ keys, (schema.property? key.property).isSome := by
  constructor
  · rintro ⟨pipeline, description, hdescribe, rfl⟩
    exact ⟨Pipeline.nodup_of_describe hdescribe, (Pipeline.suits_of_describe hdescribe).orderBy⟩
  · rintro ⟨hnodup, hknown⟩
    obtain ⟨description, hdescribe, horder⟩ := Pipeline.orderBy_describe
      ⟨.inMemory, Operation.ofSortKeys keys⟩ (Fold.run_ofSortKeys hknown)
    exact ⟨_, description, hdescribe, horder.trans (SortKey.distinct_eq_self hnodup)⟩

/-! ## Types -/

namespace Schema

/-- Where keys occur by the names of their properties alone, only ordered ones do exactly if all
properties with such names are ordered. -/
theorem forall_isOrdered_iff {occurs : List SortKey → Prop} {admits : String → Prop}
    (hsound : ∀ keys, occurs keys →
      ∀ key ∈ keys, (schema.property? key.property).isSome ∧ admits key.property)
    (hcomplete : ∀ key : SortKey, (schema.property? key.property).isSome → admits key.property →
      occurs [key]) :
    (∀ keys, occurs keys → ∀ key ∈ keys, key.IsOrdered schema)
      ↔ ∀ name type, admits name → schema.typeOf? name = some type → type.isOrdered = true := by
  constructor
  · intro h name type hname htype
    obtain ⟨declared, hdeclared, -⟩ := Option.map_eq_some_iff.1 htype
    have hoccurs : occurs [⟨name, .asc⟩] :=
      hcomplete ⟨name, .asc⟩ (Option.isSome_of_eq_some hdeclared) hname
    obtain ⟨type', htype', hordered⟩ := h _ hoccurs _ List.mem_cons_self
    rw [htype] at htype'
    rwa [Option.some.inj htype']
  · intro h keys hoccurs key hkey
    obtain ⟨hknown, hname⟩ := hsound keys hoccurs key hkey
    obtain ⟨declared, hdeclared⟩ := Option.isSome_iff_exists.1 hknown
    have htype : schema.typeOf? key.property = some declared.type :=
      congrArg (Option.map Property.type) hdeclared
    exact ⟨declared.type, htype, h _ _ hname htype⟩

/-- **Any properties are sorted by, whatever their types.**  A query can be read with an ordering
exactly if its keys are names of properties, and described by a pipeline exactly if they are
properties, each once.  So only ordered types are sorted by exactly where a schema has no others;
properties that are no names can only be sorted by in pipelines. -/
theorem sorts_by_any_property (schema : Schema) :
    (∀ keys, schema.ReadsOrdering keys
        ↔ ∀ key ∈ keys,
          (schema.property? key.property).isSome ∧ Lexer.isName key.property = true)
      ∧ (∀ keys, schema.DescribesOrdering keys
        ↔ (keys.map SortKey.property).Nodup
          ∧ ∀ key ∈ keys, (schema.property? key.property).isSome)
      ∧ ((∀ keys, schema.ReadsOrdering keys → ∀ key ∈ keys, key.IsOrdered schema)
        ↔ ∀ name type, Lexer.isName name = true → schema.typeOf? name = some type →
          type.isOrdered = true)
      ∧ ((∀ keys, schema.DescribesOrdering keys → ∀ key ∈ keys, key.IsOrdered schema)
        ↔ ∀ name type, schema.typeOf? name = some type → type.isOrdered = true) := by
  refine ⟨fun _ => readsOrdering_iff, fun _ => describesOrdering_iff, ?_, ?_⟩
  · exact forall_isOrdered_iff (fun keys => readsOrdering_iff.1) fun key hknown hname =>
      readsOrdering_iff.2 (List.forall_mem_singleton.2 ⟨hknown, hname⟩)
  · have hdescribes : (∀ keys, schema.DescribesOrdering keys → ∀ key ∈ keys, key.IsOrdered schema)
        ↔ ∀ name type, True → schema.typeOf? name = some type → type.isOrdered = true :=
      forall_isOrdered_iff
        (fun keys hkeys key hkey => ⟨(describesOrdering_iff.1 hkeys).2 key hkey, trivial⟩)
        fun key hknown _ => describesOrdering_iff.2
          ⟨List.nodup_singleton _, List.forall_mem_singleton.2 hknown⟩
    simpa only [forall_const] using hdescribes

/-- A property that is true or false, which no comparison by size accepts, is sorted by in a query
string and in a pipeline. -/
theorem exists_unordered_sort_key :
    let schema : Schema := ⟨"Note", .ofList [("Done", { type := .boolean })]⟩
    let bySize : Expression :=
      .binary (.property "Done") (.comparison .lt) (.literal (.bool true))
    let pipeline : Pipeline := ⟨.inMemory, [.orderBy ⟨"Done", .asc⟩]⟩
    Query.parse schema [("$orderby", "Done")] = .ok { orderBy := [⟨"Done", .asc⟩] }
      ∧ (∃ description, pipeline.describe schema = .ok description
        ∧ description.query.orderBy = [⟨"Done", .asc⟩])
      ∧ ¬ SortKey.IsOrdered schema ⟨"Done", .asc⟩
      ∧ bySize.checkPredicate schema ≠ .ok () := by
  intro schema bySize pipeline
  refine ⟨?_, ⟨_, rfl, rfl⟩, ?_, ?_⟩
  · have hread : OrderBy.parse schema "Done" = .ok [⟨"Done", .asc⟩] := by decide
    exact Query.parse_orderBy hread
  · rintro ⟨type, ⟨⟩, hordered⟩
    cases hordered
  · decide

end Schema

end ODataQuery
