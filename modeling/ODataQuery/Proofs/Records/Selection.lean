import ODataQuery.Proofs.Records.Ordering

/-!
# What a query asks for

The records that match the filter of a query are sorted by its ordering, and the page is taken of
what comes out.

* `Binding.accepts`: does a record match a filter.
* `Query.answer`: the records that a query asks for.
* `Selection.result_of_ofQuery`: the selection of a query gives its answer.
* `Selection.result_eq`: it depends on how records compare only, also where that is no order of them.
* `Query.exists_apply`: a query over the properties of a schema can be answered from records.
-/

set_option autoImplicit false

namespace ODataQuery

variable {ρ : Type}

/-! ## Matching records -/

namespace Binding

/-- Does a record match a filter.  None does if the filter cannot be resolved. -/
def selects (binding : Binding ρ) (filter : Expression) (record : ρ) : Bool :=
  match Node.resolve binding filter with
  | .ok node => node.selects record
  | .error _ => false

/-- Does a record match the filter of a query, if there is one. -/
def accepts (binding : Binding ρ) (filter : Option Expression) (record : ρ) : Bool :=
  filter.all fun filter => binding.selects filter record

theorem selects_of_resolve {binding : Binding ρ} {filter : Expression} {node : Node ρ}
    (h : Node.resolve binding filter = .ok node) (record : ρ) :
    binding.selects filter record = node.selects record := by
  rw [selects, h]

end Binding

/-! ## Answers -/

namespace Query

/-- The page of a query: what is skipped is left out first, and then what is over the top. -/
def pageOf (query : Query) (records : List ρ) : List ρ :=
  match query.top with
  | none => records.drop (query.skip.getD 0).toNat
  | some top => (records.drop (query.skip.getD 0).toNat).take top.toNat

/-- The records that a query asks for. -/
def answer (binding : Binding ρ) (query : Query) (records : List ρ) : List ρ :=
  query.pageOf <| arrange (binding.compareBy query.orderBy) <|
    records.filter (binding.accepts query.filter)

/-- The count of all matches does not depend on the page. -/
theorem length_answer_unpaged (binding : Binding ρ) (query : Query) (records : List ρ) :
    (query.unpaged.answer binding records).length
      = (records.filter (binding.accepts query.filter)).length := by
  have hperm := arrange_perm (binding.compareBy query.orderBy)
    (records.filter (binding.accepts query.filter))
  rw [← hperm.length_eq]
  rfl

end Query

/-- Every property that a query names can be read. -/
structure Query.ReadableFrom (binding : Binding ρ) (query : Query) : Prop where
  filter : ∀ filter ∈ query.filter, ∀ name, .property name ∈ filter.parts →
    (binding.reader? name).isSome
  orderBy : ∀ key ∈ query.orderBy, (binding.reader? key.property).isSome

/-! ## Selections of queries -/

namespace Selection

variable {binding : Binding ρ} {query : Query} {selection : Selection ρ}

theorem ofQuery_eq_ok : ofQuery binding query = .ok selection
    ↔ resolveFilter binding query.filter = .ok selection.filter
      ∧ resolveKeys binding query.orderBy = .ok selection.keys
      ∧ selection.skip = (query.skip.getD 0).toNat
      ∧ selection.top = query.top.map UInt64.toNat := by
  rw [ofQuery]
  simp only [bind_eq_ok, Except.ok.injEq]
  constructor
  · rintro ⟨filter, hfilter, keys, hkeys, rfl⟩
    exact ⟨hfilter, hkeys, rfl, rfl⟩
  · rintro ⟨hfilter, hkeys, hskip, htop⟩
    exact ⟨_, hfilter, _, hkeys, by rw [← hskip, ← htop]⟩

/-- A query resolves if the properties that it names can be read. -/
theorem exists_ofQuery (h : query.ReadableFrom binding) :
    ∃ selection, ofQuery binding query = .ok selection := by
  obtain ⟨keys, hkeys⟩ := exists_resolveKeys h.orderBy
  have hresolved : ∃ filter, resolveFilter binding query.filter = .ok filter := by
    cases hsome : query.filter with
    | none => exact ⟨none, rfl⟩
    | some filter =>
      obtain ⟨node, hnode⟩ := Node.exists_resolve (h.filter filter hsome)
      exact ⟨some node, by rw [resolveFilter, hnode]; rfl⟩
  obtain ⟨filter, hfilter⟩ := hresolved
  exact ⟨⟨filter, keys, _, _⟩, ofQuery_eq_ok.2 ⟨hfilter, hkeys, rfl, rfl⟩⟩

theorem accepts_of_ofQuery (h : ofQuery binding query = .ok selection) :
    selection.accepts = binding.accepts query.filter := by
  funext record
  have hfilter := (ofQuery_eq_ok.1 h).1
  rw [accepts_eq, Binding.accepts]
  cases hsome : query.filter with
  | none =>
    rw [hsome, resolveFilter] at hfilter
    rw [← Except.ok.inj hfilter]
    rfl
  | some filter =>
    rw [hsome, resolveFilter, map_eq_ok] at hfilter
    obtain ⟨node, hnode, hselection⟩ := hfilter
    rw [← hselection, Option.all_some, Option.all_some, Binding.selects_of_resolve hnode]

/-- A selection has keys if its query names an ordering. -/
theorem isEmpty_keys_of_ofQuery (h : ofQuery binding query = .ok selection) :
    selection.keys.isEmpty = true ↔ query.orderBy = [] := by
  obtain ⟨-, hkeys, -, -⟩ := ofQuery_eq_ok.1 h
  rw [List.isEmpty_iff]
  constructor
  · intro hempty
    rw [hempty] at hkeys
    exact resolveKeys_eq_ok_nil.1 hkeys
  · intro hempty
    rw [hempty, resolveKeys] at hkeys
    exact (Except.ok.inj hkeys).symm

/-- The matches of a query are put in its ordering. -/
theorem ordered_of_ofQuery (h : ofQuery binding query = .ok selection) {records : List ρ}
    (hsortable : binding.Sortable query.orderBy
      (records.filter (binding.accepts query.filter))) :
    selection.ordered records
      = arrange (binding.compareBy query.orderBy)
          (records.filter (binding.accepts query.filter)) := by
  obtain ⟨-, hkeys, -, -⟩ := ofQuery_eq_ok.1 h
  rw [ordered, accepts_of_ofQuery h]
  split
  · -- without keys nothing is moved
    rename_i hempty
    rw [(isEmpty_keys_of_ofQuery h).1 hempty]
    exact (arrange_of_ordered (List.pairwise_of_forall fun _ _ => rfl)).symm
  · exact sort_eq_arrange hkeys hsortable

/-- The page of a selection is that of its query. -/
theorem page_of_ofQuery (h : ofQuery binding query = .ok selection) (records : List ρ) :
    selection.page records = query.pageOf records := by
  obtain ⟨-, -, hskip, htop⟩ := ofQuery_eq_ok.1 h
  rw [page, hskip, htop, Query.pageOf]
  cases query.top <;> rfl

/-- **The selection of a query gives its answer.** -/
theorem result_of_ofQuery (h : ofQuery binding query = .ok selection) {records : List ρ}
    (hsortable : binding.Sortable query.orderBy records) :
    selection.result records = query.answer binding records := by
  rw [result, page_of_ofQuery h,
    ordered_of_ofQuery h (hsortable.subset (List.filter_subset_self records)), Query.answer]

/-- Whatever the values of their keys are, records are sorted by the ordering of the query. -/
theorem ordered_eq (h : ofQuery binding query = .ok selection) (records : List ρ) :
    selection.ordered records
      = StableSort.sort (fun a b => binding.compareBy query.orderBy a b == .lt)
          (records.filter (binding.accepts query.filter)) := by
  obtain ⟨-, hkeys, -, -⟩ := ofQuery_eq_ok.1 h
  rw [ordered, accepts_of_ofQuery h]
  split
  · rename_i hempty
    rw [(isEmpty_keys_of_ofQuery h).1 hempty]
    exact (StableSort.sort_of_never _).symm
  · simp only [sort_eq, StableSort.sort_map, List.map_map, precedes]
    simp only [compareKeys_keyValues hkeys]
    exact List.map_id _

/-- **What is selected depends on the comparison, the matches and the page only.** -/
theorem result_eq (h : ofQuery binding query = .ok selection) (records : List ρ) :
    selection.result records
      = query.pageOf (StableSort.sort (fun a b => binding.compareBy query.orderBy a b == .lt)
          (records.filter (binding.accepts query.filter))) := by
  rw [result, page_of_ofQuery h, ordered_eq h]

end Selection

namespace Query

variable {binding : Binding ρ} {query : Query}

theorem apply_eq_ok {application : Application ρ} : query.apply binding = .ok application
    ↔ Selection.ofQuery binding query = .ok application.result
      ∧ Selection.ofQuery binding query.unpaged = .ok application.countSource := by
  rw [apply]
  simp only [bind_eq_ok, Except.ok.injEq]
  constructor
  · rintro ⟨result, hresult, countSource, hcountSource, rfl⟩
    exact ⟨hresult, hcountSource⟩
  · rintro ⟨hresult, hcountSource⟩
    exact ⟨_, hresult, _, hcountSource, rfl⟩

/-- **A query can be answered from records** if the properties that it names can be read. -/
theorem exists_apply_of_readable (h : query.ReadableFrom binding) :
    ∃ application, query.apply binding = .ok application := by
  obtain ⟨result, hresult⟩ := Selection.exists_ofQuery h
  obtain ⟨countSource, hcountSource⟩ : ∃ selection,
      Selection.ofQuery binding query.unpaged = .ok selection :=
    Selection.exists_ofQuery ⟨h.filter, h.orderBy⟩
  exact ⟨⟨result, countSource⟩, apply_eq_ok.2 ⟨hresult, hcountSource⟩⟩

/-- **A query over the properties of a schema can be answered from records.** -/
theorem exists_apply
    (hfilter : ∀ filter ∈ query.filter, filter.checkPredicate binding.schema = .ok ())
    (hkeys : ∀ key ∈ query.orderBy, (binding.schema.property? key.property).isSome) :
    ∃ application, query.apply binding = .ok application := by
  refine exists_apply_of_readable ⟨fun filter hmem name hname => ?_, fun key hkey => ?_⟩
  · rw [Binding.isSome_reader?]
    exact Expression.isSome_property_of_infer
      (Expression.checkPredicate_eq_ok.1 (hfilter filter hmem)) hname
  · rw [Binding.isSome_reader?]
    exact hkeys key hkey

end Query

end ODataQuery
