import ODataQuery.Proofs.Pipeline.Execution

/-!
# A pipeline means what its operations do

The query that a pipeline is folded into asks for what the operations make of the records one after
the other.

* `Fold.Answerable`: the query so far can be answered from records.
* `Fold.outcome`: what the caller would get of the query so far.
* `Fold.Tracks`: what the operations have made of the records is the answer of the query so far.
  While an ordering can still be continued, the ordering of the records is that of the query.
* `Fold.tracks_step`, `Fold.tracks_run`: one operation, and all of them, keep it so.
* `Pipeline.run_eq_execute`: running a pipeline is executing its operations.

A second `orderBy` leaves the keys of the first one in the query, and a `thenBy` after it is put
behind them, where it comes too late.  So this is about pipelines without such a `thenBy`.
-/

set_option autoImplicit false

namespace ODataQuery

variable {ρ : Type}

namespace Operation

/-- The key by which the operation sorts. -/
def sortKey? : Operation → Option SortKey
  | orderBy key | thenBy key => some key
  | _ => none

/-- Does the operation start an ordering. -/
def isOrderBy : Operation → Bool
  | orderBy _ => true
  | _ => false

end Operation

namespace Pipeline

/-- The keys by which the operations sort. -/
def sortKeys (pipeline : Pipeline) : List SortKey :=
  pipeline.operations.filterMap Operation.sortKey?

/-- There is no `thenBy` after a second `orderBy`. -/
def ContinuesFirstOrdering (pipeline : Pipeline) : Prop :=
  ∀ index key, pipeline.operations[index]? = some (.thenBy key) →
    (pipeline.operations.take index).countP Operation.isOrderBy ≤ 1

end Pipeline

namespace Fold

/-! ## Allowed operations -/

theorem step_eq_ok {schema : Schema} {index : Nat} {fold next : Fold} {operation : Operation} :
    step schema index fold operation = .ok next
      ↔ fold.refusal? operation = none ∧ check schema operation = .ok ()
        ∧ next = fold.apply operation := by
  rw [step]
  cases fold.refusal? operation with
  | some refusal => simp
  | none =>
    show (check schema operation).map _ = .ok next ↔ _
    rw [map_eq_ok]
    constructor
    · rintro ⟨⟨⟩, hcheck, rfl⟩
      exact ⟨rfl, hcheck, rfl⟩
    · rintro ⟨-, hcheck, rfl⟩
      exact ⟨(), hcheck, rfl⟩

/-- An operation is only allowed while the pipeline has no result yet. -/
theorem terminal_of_allowed {fold : Fold} {operation : Operation}
    (h : fold.refusal? operation = none) : fold.terminal = none := by
  rw [refusal?.eq_def] at h
  split at h
  · cases h
  · rename_i hopen
    simpa using hopen

/-- An operation that looks at all records is only allowed before paging. -/
theorem unpaged_of_allowed {fold : Fold} {operation : Operation}
    (h : fold.refusal? operation = none) (hall : operation.seesAllRecords = true) :
    fold.paged = false := by
  rw [refusal?.eq_def, terminal_of_allowed h, hall] at h
  cases hpaged : fold.paged with
  | false => rfl
  | true =>
    rw [hpaged] at h
    cases h

/-! ## Queries that can be answered -/

/-- The query so far can be answered from records: its filter is a condition, it sorts by properties
of the schema, and their values can be sorted by. -/
structure Answerable (binding : Binding ρ) (records : List ρ) (fold : Fold) : Prop where
  filter : ∀ filter ∈ fold.query.filter, filter.checkPredicate binding.schema = .ok ()
  known : ∀ key ∈ fold.query.orderBy, (binding.schema.property? key.property).isSome
  sortable : binding.Sortable fold.query.orderBy records

/-- The keys after an operation are those before it, and its own. -/
theorem mem_orderBy_apply {fold : Fold} {operation : Operation} {key : SortKey}
    (h : key ∈ (fold.apply operation).query.orderBy) :
    key ∈ fold.query.orderBy ∨ operation.sortKey? = some key := by
  cases operation with
  | orderBy first =>
    rcases List.mem_cons.1 h with rfl | h
    · exact .inr rfl
    · exact .inl (List.mem_of_mem_filter h)
  | thenBy last =>
    have h : key ∈ lastKey fold.query.orderBy last := h
    rw [lastKey] at h
    split at h
    · exact .inl h
    · rcases List.mem_append.1 h with h | h
      · exact .inl h
      · exact .inr (congrArg some (List.mem_singleton.1 h).symm)
  | _ => exact .inl h

/-- An operation that passes its check sorts by a property of the schema. -/
theorem isSome_property_of_check {schema : Schema} {operation : Operation} {key : SortKey}
    (h : check schema operation = .ok ()) (hkey : operation.sortKey? = some key) :
    (schema.property? key.property).isSome := by
  have hcheck : check schema operation = check schema (.orderBy key) := by
    cases operation with
    | orderBy first | thenBy first =>
      cases hkey
      rfl
    | _ => cases hkey
  rw [hcheck, check, Schema.lookup] at h
  cases hproperty : schema.property? key.property with
  | none =>
    rw [hproperty] at h
    cases h
  | some declared => rfl

/-- The conjunction of conditions is a condition. -/
theorem checkPredicate_conjunction {schema : Schema} {filter : Option Expression}
    {predicate : Expression} (hfilter : ∀ filter' ∈ filter, filter'.checkPredicate schema = .ok ())
    (hpredicate : predicate.checkPredicate schema = .ok ()) :
    (conjunction filter predicate).checkPredicate schema = .ok () := by
  cases filter with
  | none => exact hpredicate
  | some filter =>
    have hfilter := hfilter filter rfl
    rw [Expression.checkPredicate_eq_ok] at hfilter hpredicate ⊢
    rw [conjunction, Expression.infer_binary_eq_ok]
    exact ⟨_, _, hfilter, hpredicate,
      Operator.resultType_connective_eq_ok.2 ⟨rfl, rfl, rfl⟩⟩

/-- After an operation that passes its check, the filter is still a condition. -/
theorem checkPredicate_apply {schema : Schema} {fold : Fold} {operation : Operation}
    (hcheck : check schema operation = .ok ())
    (hfilter : ∀ filter ∈ fold.query.filter, filter.checkPredicate schema = .ok ()) :
    ∀ filter ∈ (fold.apply operation).query.filter, filter.checkPredicate schema = .ok () := by
  cases operation with
  | filter predicate =>
    rintro filter ⟨rfl⟩
    exact checkPredicate_conjunction hfilter (mapError_eq_ok.1 hcheck)
  | _ => exact hfilter

/-- After an operation that passes its check, the query still sorts by properties of the schema. -/
theorem isSome_property_apply {schema : Schema} {fold : Fold} {operation : Operation}
    (hcheck : check schema operation = .ok ())
    (hknown : ∀ key ∈ fold.query.orderBy, (schema.property? key.property).isSome) :
    ∀ key ∈ (fold.apply operation).query.orderBy, (schema.property? key.property).isSome := by
  intro key hkey
  rcases mem_orderBy_apply hkey with hkey | hkey
  · exact hknown key hkey
  · exact isSome_property_of_check hcheck hkey

/-- **An allowed operation keeps the query answerable.** -/
theorem answerable_step {binding : Binding ρ} {records : List ρ} {index : Nat} {fold next : Fold}
    {operation : Operation} (h : step binding.schema index fold operation = .ok next)
    (hsortable : ∀ key, operation.sortKey? = some key →
      Value.Uniform (records.map (binding.read key.property)))
    (hfold : fold.Answerable binding records) : next.Answerable binding records := by
  obtain ⟨-, hcheck, rfl⟩ := step_eq_ok.1 h
  refine ⟨checkPredicate_apply hcheck hfold.filter, isSome_property_apply hcheck hfold.known,
    fun key hkey => ?_⟩
  rcases mem_orderBy_apply hkey with hkey | hkey
  · exact hfold.sortable key hkey
  · exact hsortable key hkey

/-! ## The records so far -/

/-- What the caller would get of the query so far. -/
def outcome (binding : Binding ρ) (records : List ρ) (fold : Fold) : Outcome ρ :=
  let projector := fold.terminal.getD .rows
  if projector.expectsCount then
    projector.projectCount (UInt64.ofNat (fold.query.unpaged.answer binding records).length)
  else projector.projectRows (fold.query.answer binding records)

/-- The ordering that records have just been put in.  As long as there has been no other, it is that
of the query. -/
structure Continues (binding : Binding ρ) (done : List Operation) (fold : Fold)
    (ordering : List SortKey) : Prop where
  nonempty : ordering ≠ []
  begun : done.countP Operation.isOrderBy ≠ 0
  same : done.countP Operation.isOrderBy ≤ 1 →
    binding.compareBy ordering = binding.compareBy fold.query.orderBy

/-- What the operations that have been done have made of the records is the answer of the query so
far. -/
inductive Tracks (binding : Binding ρ) (records : List ρ) (done : List Operation) (fold : Fold) :
    Progress ρ → Prop
  | records {ordering : List SortKey} (hopen : fold.terminal = none)
      (hpaged : fold.paged = false → fold.query.skip = none ∧ fold.query.top = none)
      (hfirst : done.countP Operation.isOrderBy = 0 → fold.query.orderBy = [])
      (hordered : fold.ordered = true → Continues binding done fold ordering) :
      Tracks binding records done fold (.records (fold.query.answer binding records) ordering)
  | result (hclosed : fold.terminal.isSome) :
      Tracks binding records done fold (.result (fold.outcome binding records))

/-- A pipeline that has got so far gives what the query so far asks for. -/
theorem Tracks.outcome_eq {binding : Binding ρ} {records : List ρ} {done : List Operation}
    {fold : Fold} {progress : Progress ρ} (h : Tracks binding records done fold progress) :
    progress.outcome = fold.outcome binding records := by
  cases h with
  | records hopen =>
    rw [outcome, hopen]
    rfl
  | result => rfl

/-! ## One operation -/

/-- A `thenBy` is only allowed after an ordering. -/
theorem ordered_of_allowed {fold : Fold} {key : SortKey}
    (h : fold.refusal? (.thenBy key) = none) : fold.ordered = true := by
  have hopen := terminal_of_allowed h
  have hpaged := unpaged_of_allowed h rfl
  rw [refusal?, hopen, hpaged] at h
  cases hordered : fold.ordered with
  | true => rfl
  | false =>
    rw [hordered] at h
    cases h

/-- A `skip` is only allowed if the skips so far and its own have 64 bits together. -/
theorem isSome_addSkip?_of_allowed {fold : Fold} {count : UInt64}
    (h : fold.refusal? (.skip count) = none) : (addSkip? fold.query.skip count).isSome = true := by
  have hopen := terminal_of_allowed h
  rw [refusal?, hopen] at h
  cases hskip : addSkip? fold.query.skip count with
  | some skip => rfl
  | none =>
    rw [hskip] at h
    cases hpaged : fold.paged <;> rw [hpaged] at h <;> cases h

namespace Tracks

variable {binding : Binding ρ} {records : List ρ} {done : List Operation} {fold : Fold}

/-- After an operation that is no ordering, there is none to continue. -/
theorem of_unordered {operation : Operation} {next : Fold} (hnext : next.ordered = false)
    (hopen : next.terminal = none)
    (hpaged : next.paged = false → next.query.skip = none ∧ next.query.top = none)
    (hfirst : done.countP Operation.isOrderBy = 0 → next.query.orderBy = []) :
    Tracks binding records (done ++ [operation]) next
      (.records (next.query.answer binding records) []) := by
  refine .records hopen hpaged (fun hcount => hfirst ?_) fun hordered => ?_
  · rw [List.countP_append, Nat.add_eq_zero_iff] at hcount
    exact hcount.1
  · rw [hnext] at hordered
    cases hordered

theorem filter {ordering : List SortKey} {predicate : Expression}
    (hallowed : fold.refusal? (.filter predicate) = none)
    (hanswerable : fold.Answerable binding records)
    (hpaged : fold.paged = false → fold.query.skip = none ∧ fold.query.top = none)
    (hfirst : done.countP Operation.isOrderBy = 0 → fold.query.orderBy = []) :
    ∃ progress, (Progress.records (fold.query.answer binding records) ordering).execute binding
        (.filter predicate) = some progress
      ∧ Tracks binding records (done ++ [.filter predicate]) (fold.apply (.filter predicate))
          progress := by
  obtain ⟨hskip, htop⟩ := hpaged (unpaged_of_allowed hallowed rfl)
  refine ⟨_, rfl, ?_⟩
  rw [Query.answer_filter hskip htop hanswerable.sortable]
  exact of_unordered rfl (terminal_of_allowed hallowed) hpaged hfirst

theorem orderBy {ordering : List SortKey} {key : SortKey}
    (hallowed : fold.refusal? (.orderBy key) = none)
    (hanswerable : fold.Answerable binding records)
    (hkey : Value.Uniform (records.map (binding.read key.property)))
    (hpaged : fold.paged = false → fold.query.skip = none ∧ fold.query.top = none)
    (hfirst : done.countP Operation.isOrderBy = 0 → fold.query.orderBy = []) :
    ∃ progress, (Progress.records (fold.query.answer binding records) ordering).execute binding
        (.orderBy key) = some progress
      ∧ Tracks binding records (done ++ [.orderBy key]) (fold.apply (.orderBy key)) progress := by
  obtain ⟨hskip, htop⟩ := hpaged (unpaged_of_allowed hallowed rfl)
  have hsortable : binding.Sortable (key :: fold.query.orderBy) records := by
    intro other hother
    rcases List.mem_cons.1 hother with rfl | hother
    · exact hkey
    · exact hanswerable.sortable other hother
  have hcount : (done ++ [Operation.orderBy key]).countP Operation.isOrderBy
      = done.countP Operation.isOrderBy + 1 := by
    rw [List.countP_append]
    rfl
  refine ⟨_, rfl, ?_⟩
  rw [Query.answer_orderBy hskip htop hsortable]
  refine .records (terminal_of_allowed hallowed) hpaged (fun hnone => ?_) fun _ =>
    ⟨List.cons_ne_nil _ _, ?_, fun hone => ?_⟩
  · rw [hcount] at hnone
    cases hnone
  · rw [hcount]
    exact Nat.succ_ne_zero _
  · rw [hcount, Nat.succ_le_succ_iff, Nat.le_zero] at hone
    show _ = binding.compareBy (primaryKey fold.query.orderBy key)
    rw [hfirst hone]
    rfl

theorem thenBy {ordering : List SortKey} {key : SortKey}
    (hallowed : fold.refusal? (.thenBy key) = none)
    (hanswerable : fold.Answerable binding records)
    (hkey : Value.Uniform (records.map (binding.read key.property)))
    (hpaged : fold.paged = false → fold.query.skip = none ∧ fold.query.top = none)
    (hordered : fold.ordered = true → Continues binding done fold ordering)
    (hcontinues : done.countP Operation.isOrderBy ≤ 1) :
    ∃ progress, (Progress.records (fold.query.answer binding records) ordering).execute binding
        (.thenBy key) = some progress
      ∧ Tracks binding records (done ++ [.thenBy key]) (fold.apply (.thenBy key)) progress := by
  obtain ⟨hskip, htop⟩ := hpaged (unpaged_of_allowed hallowed rfl)
  obtain ⟨hsome, hbegun, hsame⟩ := hordered (ordered_of_allowed hallowed)
  have hsortable : binding.Sortable (fold.query.orderBy ++ [key]) records := by
    intro other hother
    rcases List.mem_append.1 hother with hother | hother
    · exact hanswerable.sortable other hother
    · obtain rfl := List.mem_singleton.1 hother
      exact hkey
  have hcount : (done ++ [Operation.thenBy key]).countP Operation.isOrderBy
      = done.countP Operation.isOrderBy := by
    rw [List.countP_append]
    rfl
  refine ⟨_, by rw [Progress.execute, if_neg (by simpa using hsome)], ?_⟩
  rw [Query.answer_thenBy hskip htop hsortable (hsame hcontinues)]
  have hopen := terminal_of_allowed hallowed
  refine .records hopen hpaged (fun hnone => ?_) fun _ => ⟨by simp, by rwa [hcount], fun _ => ?_⟩
  · rw [hcount] at hnone
    exact absurd hnone hbegun
  · show _ = binding.compareBy (lastKey fold.query.orderBy key)
    rw [binding.compareBy_lastKey, Binding.compareBy_append, Binding.compareBy_append,
      hsame hcontinues]

theorem skip {ordering : List SortKey} {count : UInt64}
    (hallowed : fold.refusal? (.skip count) = none)
    (hfirst : done.countP Operation.isOrderBy = 0 → fold.query.orderBy = []) :
    ∃ progress, (Progress.records (fold.query.answer binding records) ordering).execute binding
        (.skip count) = some progress
      ∧ Tracks binding records (done ++ [.skip count]) (fold.apply (.skip count)) progress := by
  refine ⟨_, rfl, ?_⟩
  rw [Query.answer_skip (isSome_addSkip?_of_allowed hallowed)]
  have hopen := terminal_of_allowed hallowed
  exact of_unordered rfl hopen (fun h => nomatch h) hfirst

theorem take {ordering : List SortKey} {count : UInt64}
    (hallowed : fold.refusal? (.take count) = none)
    (hfirst : done.countP Operation.isOrderBy = 0 → fold.query.orderBy = []) :
    ∃ progress, (Progress.records (fold.query.answer binding records) ordering).execute binding
        (.take count) = some progress
      ∧ Tracks binding records (done ++ [.take count]) (fold.apply (.take count)) progress := by
  refine ⟨_, rfl, ?_⟩
  rw [Query.answer_take]
  have hopen := terminal_of_allowed hallowed
  exact of_unordered rfl hopen (fun h => nomatch h) hfirst

theorem count {ordering : List SortKey} (hallowed : fold.refusal? .count = none)
    (hpaged : fold.paged = false → fold.query.skip = none ∧ fold.query.top = none) :
    ∃ progress, (Progress.records (fold.query.answer binding records) ordering).execute binding
        .count = some progress
      ∧ Tracks binding records (done ++ [.count]) (fold.apply .count) progress := by
  obtain ⟨hskip, htop⟩ := hpaged (unpaged_of_allowed hallowed rfl)
  have hlength : (fold.query.unpaged.answer binding records).length
      = (fold.query.answer binding records).length := by
    rw [Query.length_answer_unpaged, Query.answer_of_unpaged hskip htop]
    exact (arrange_perm _ _).length_eq.symm
  refine ⟨_, rfl, ?_⟩
  rw [← hlength]
  exact .result rfl

theorem first {ordering : List SortKey} :
    ∃ progress, (Progress.records (fold.query.answer binding records) ordering).execute binding
        .first = some progress
      ∧ Tracks binding records (done ++ [.first]) (fold.apply .first) progress := by
  have hhead : (fold.query.answer binding records).head?
      = ((fold.query.answer binding records).take (1 : UInt64).toNat).head? := by
    cases fold.query.answer binding records <;> rfl
  refine ⟨_, rfl, ?_⟩
  rw [hhead, Query.answer_take]
  exact .result rfl

theorem any {ordering : List SortKey} :
    ∃ progress, (Progress.records (fold.query.answer binding records) ordering).execute binding
        .any = some progress
      ∧ Tracks binding records (done ++ [.any]) (fold.apply .any) progress := by
  have hempty : (fold.query.answer binding records).isEmpty
      = ((fold.query.answer binding records).take (1 : UInt64).toNat).isEmpty := by
    cases fold.query.answer binding records <;> rfl
  refine ⟨_, rfl, ?_⟩
  rw [hempty, Query.answer_take]
  exact .result rfl

end Tracks

/-- **An allowed operation does to the records what it does to the query.**  If it continues an
ordering, this has to be the first. -/
theorem tracks_step {binding : Binding ρ} {records : List ρ} {done : List Operation} {fold : Fold}
    {progress : Progress ρ} {operation : Operation}
    (htracks : Tracks binding records done fold progress)
    (hanswerable : fold.Answerable binding records)
    (hallowed : fold.refusal? operation = none)
    (hsortable : ∀ key, operation.sortKey? = some key →
      Value.Uniform (records.map (binding.read key.property)))
    (hcontinues : ∀ key, operation = .thenBy key → done.countP Operation.isOrderBy ≤ 1) :
    ∃ next, progress.execute binding operation = some next
      ∧ Tracks binding records (done ++ [operation]) (fold.apply operation) next := by
  cases htracks with
  | result hclosed =>
    rw [terminal_of_allowed hallowed] at hclosed
    cases hclosed
  | @records ordering hopen hpaged hfirst hordered =>
    cases operation with
    | filter predicate => exact Tracks.filter hallowed hanswerable hpaged hfirst
    | orderBy key => exact Tracks.orderBy hallowed hanswerable (hsortable key rfl) hpaged hfirst
    | thenBy key =>
      exact Tracks.thenBy hallowed hanswerable (hsortable key rfl) hpaged hordered
        (hcontinues key rfl)
    | skip count => exact Tracks.skip hallowed hfirst
    | take count => exact Tracks.take hallowed hfirst
    | toList => exact ⟨_, rfl, .result rfl⟩
    | count => exact Tracks.count hallowed hpaged
    | first => exact Tracks.first
    | any => exact Tracks.any
    | distinct | select _ | groupBy _ | reverse =>
      -- these have no meaning as a query, wherever they stand
      rw [refusal?.eq_def] at hallowed
      split at hallowed
      · cases hallowed
      · split at hallowed <;> cases hallowed

/-! ## All operations -/

/-- **Allowed operations do to the records what they do to the query.** -/
theorem tracks_run {binding : Binding ρ} {records : List ρ} {rest : List Operation}
    {done : List Operation} {index : Nat} {fold final : Fold} {progress : Progress ρ}
    (htracks : Tracks binding records done fold progress)
    (hanswerable : fold.Answerable binding records)
    (hrun : run binding.schema index fold rest = .ok final)
    (hsortable : binding.Sortable (rest.filterMap Operation.sortKey?) records)
    (hcontinues : ∀ index key, (done ++ rest)[index]? = some (.thenBy key) →
      ((done ++ rest).take index).countP Operation.isOrderBy ≤ 1) :
    ∃ last, progress.executeAll binding rest = some last
      ∧ Tracks binding records (done ++ rest) final last ∧ final.Answerable binding records := by
  induction rest generalizing done index fold progress with
  | nil =>
    rw [run] at hrun
    cases hrun
    rw [List.append_nil]
    exact ⟨progress, rfl, htracks, hanswerable⟩
  | cons operation rest ih =>
    rw [run] at hrun
    obtain ⟨between, hstep, hrest⟩ := bind_eq_ok.1 hrun
    have hkey : ∀ key, operation.sortKey? = some key →
        Value.Uniform (records.map (binding.read key.property)) := fun key hkey =>
      hsortable key (List.mem_filterMap.2 ⟨operation, List.mem_cons_self, hkey⟩)
    have hthen : ∀ key, operation = .thenBy key → done.countP Operation.isOrderBy ≤ 1 := by
      rintro key rfl
      have hbefore := hcontinues done.length key (by simp)
      rwa [List.take_left] at hbefore
    have hanswerable' := answerable_step hstep hkey hanswerable
    obtain ⟨hallowed, -, rfl⟩ := step_eq_ok.1 hstep
    obtain ⟨next, hexecute, hnext⟩ := tracks_step htracks hanswerable hallowed hkey hthen
    have hsortable' : binding.Sortable (rest.filterMap Operation.sortKey?) records := by
      refine hsortable.mono fun key hkey => ?_
      obtain ⟨other, hother, hkey⟩ := List.mem_filterMap.1 hkey
      exact List.mem_filterMap.2 ⟨other, List.mem_cons_of_mem operation hother, hkey⟩
    rw [List.append_cons] at hcontinues ⊢
    obtain ⟨last, hlast, h⟩ := ih hnext hanswerable' hrest hsortable' hcontinues
    exact ⟨last, by rw [Progress.executeAll, hexecute]; exact hlast, h⟩

end Fold

namespace Pipeline

/-- What a pipeline gives is what the query that it is folded into asks for. -/
theorem run_of_describe {binding : Binding ρ} {pipeline : Pipeline} {records : List ρ} {fold : Fold}
    {inlineCount : InlineCount} {source : Source}
    (hdescribe : pipeline.describe binding.schema
      = .ok ⟨{ fold.query with inlineCount := inlineCount }, source, fold.terminal.getD .rows⟩)
    (hanswerable : fold.Answerable binding records) :
    pipeline.run binding records = .ok (fold.outcome binding records) := by
  let query : Query := { fold.query with inlineCount := inlineCount }
  have hsortable : binding.Sortable query.orderBy records := hanswerable.sortable
  have hsortable' : binding.Sortable query.unpaged.orderBy records := hanswerable.sortable
  obtain ⟨application, happlication⟩ : ∃ application, query.apply binding = .ok application :=
    Query.exists_apply hanswerable.filter hanswerable.known
  obtain ⟨hresult, hcountSource⟩ := Query.apply_eq_ok.1 happlication
  refine bind_eq_ok.2 ⟨_, mapError_eq_ok.2 hdescribe,
    bind_eq_ok.2 ⟨application, mapError_eq_ok.2 happlication, ?_⟩⟩
  rw [Selection.result_of_ofQuery hresult hsortable,
    Selection.result_of_ofQuery hcountSource hsortable']
  rfl

/-- **Running a pipeline is executing its operations one after the other.** -/
theorem run_eq_execute (binding : Binding ρ) {pipeline : Pipeline} {description : Description}
    (hdescribe : pipeline.describe binding.schema = .ok description)
    (hcontinues : pipeline.ContinuesFirstOrdering) {records : List ρ}
    (hsortable : binding.Sortable pipeline.sortKeys records) :
    ∃ outcome, pipeline.run binding records = .ok outcome
      ∧ pipeline.execute binding records = some outcome := by
  obtain ⟨fold, hfold, hdescription⟩ := bind_eq_ok.1 hdescribe
  have hstart : Fold.Tracks binding records [] {}
      (.records (({} : Query).answer binding records) []) :=
    .records rfl (fun _ => ⟨rfl, rfl⟩) (fun _ => rfl) (fun h => nomatch h)
  rw [Query.answer_default] at hstart
  have hempty : Fold.Answerable binding records {} :=
    ⟨fun _ h => (nomatch h), fun _ h => (nomatch h), fun _ h => (nomatch h)⟩
  obtain ⟨last, hlast, htracks, hanswerable⟩ :=
    Fold.tracks_run hstart hempty hfold hsortable hcontinues
  refine ⟨fold.outcome binding records, ?_, ?_⟩
  · cases hdescription
    exact run_of_describe hdescribe hanswerable
  · rw [execute, hlast, Option.map_some, htracks.outcome_eq]

/-- The rule for a pipeline that demotes an ordering with two keys and takes a page of a page. -/
theorem run_eq_execute_of_demoted_ordering :
    let binding : Binding (Int64 × String × Bool) := ⟨"Note", .ofList
      [("Id", ⟨{ type := .integer }, fun note => .int note.1⟩),
        ("Text", ⟨{ type := .string }, fun note => .string note.2.1⟩),
        ("Done", ⟨{ type := .boolean }, fun note => if note.1 < 0 then .null else .bool note.2.2⟩)]⟩
    let pipeline : Pipeline := ⟨.inMemory,
      [.filter (.binary (.property "Id") (.comparison .ne) (.literal (.int 7))),
        .orderBy ⟨"Text", .desc⟩, .thenBy ⟨"Id", .asc⟩, .orderBy ⟨"Done", .asc⟩,
        .skip 1, .take 3, .skip 1, .toList]⟩
    let records : List (Int64 × String × Bool) :=
      [(2, "a", true), (-1, "b", true), (7, "b", false), (3, "a", true), (1, "a", true)]
    ∃ outcome, pipeline.run binding records = .ok outcome
      ∧ pipeline.execute binding records = some outcome := by
  intro binding pipeline records
  have hdescribe : ∃ description, pipeline.describe binding.schema = .ok description := ⟨_, rfl⟩
  obtain ⟨description, hdescribe⟩ := hdescribe
  have hcontinues : pipeline.ContinuesFirstOrdering := by
    intro index key hkey
    rcases index with _ | _ | _ | index
    · cases hkey
    · cases hkey
    · decide
    · rcases index with _ | _ | _ | _ | _ | index <;> cases hkey
  have hsortable : binding.Sortable pipeline.sortKeys records := by
    intro key hkey
    have hkey : key ∈ [⟨"Text", .desc⟩, ⟨"Id", .asc⟩, ⟨"Done", .asc⟩] := hkey
    simp only [List.mem_cons, List.not_mem_nil, or_false] at hkey
    rcases hkey with rfl | rfl | rfl
    · exact ⟨.string, by decide, by decide⟩
    · exact ⟨.integer, by decide, by decide⟩
    · exact ⟨.boolean, by decide, by decide⟩
  exact run_eq_execute binding hdescribe hcontinues hsortable

end Pipeline

end ODataQuery
