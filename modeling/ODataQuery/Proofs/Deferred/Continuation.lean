import ODataQuery.Deferred.Basic
import ODataQuery.Proofs.Pipeline.Refusals

/-!
# Continuing a query keeps its rows

To continue a query, it is turned into a pipeline, which is folded into a query again.  The fold
checks what the query has never been checked for, drops the keys of properties that it sorts by
already, and leaves out a skip of nothing.

* `Fold.run_operations`: what the operations of a query are folded into.
* `Query.continuation_keeps_rows`: it is the query again but for these repeats, and selects the same
  rows, because repeated keys make no difference to the comparison of records
  (`Binding.compareBy_distinct`).
-/

set_option autoImplicit false

namespace ODataQuery

variable {ρ : Type}

/-! ## The operations of a query -/

namespace Fold

open SortKey (distinct)

variable {schema : Schema} {index : Nat} {fold : Fold}

theorem run_singleton {operation : Operation} (hallowed : fold.refusal? operation = none)
    (hcheck : check schema operation = .ok ()) :
    run schema index fold [operation] = .ok (fold.apply operation) := by
  rw [run, step_eq_ok.2 ⟨hallowed, hcheck, rfl⟩]
  rfl

theorem check_sortKey {key : SortKey} (h : (schema.property? key.property).isSome) :
    check schema (.orderBy key) = .ok () := by
  obtain ⟨declared, hdeclared⟩ := Option.isSome_iff_exists.1 h
  rw [check, Schema.lookup, hdeclared]

/-- A chain of `thenBy` on an ordering adds its keys to the ordering, and nothing else. -/
theorem run_chain {keys : List SortKey} {query : Query}
    (hkeys : ∀ key ∈ keys, (schema.property? key.property).isSome)
    (hnodup : (query.orderBy.map SortKey.property).Nodup) :
    run schema index ⟨query, true, false, none⟩ (keys.map .thenBy)
      = .ok ⟨{ query with orderBy := distinct (query.orderBy ++ keys) }, true, false, none⟩ := by
  induction keys generalizing index query with
  | nil => rw [List.append_nil, SortKey.distinct_eq_self hnodup]; rfl
  | cons key rest ih =>
    have hstep : step schema index ⟨query, true, false, none⟩ (.thenBy key)
        = .ok ⟨{ query with orderBy := distinct (query.orderBy ++ [key]) }, true, false, none⟩ := by
      refine step_eq_ok.2 ⟨rfl, check_sortKey (hkeys key List.mem_cons_self), ?_⟩
      rw [← lastKey_eq hnodup]
      rfl
    rw [List.map_cons, run, hstep]
    refine (ih (fun other hother => hkeys other (List.mem_cons_of_mem key hother))
      (SortKey.nodup_distinct _)).trans ?_
    rw [SortKey.distinct_distinct_append, List.append_assoc, List.singleton_append]

/-- The operations of an ordering sort by its keys, each property once. -/
theorem run_ofSortKeys {keys : List SortKey} {filter : Option Expression}
    (hkeys : ∀ key ∈ keys, (schema.property? key.property).isSome) :
    run schema index { query := { filter := filter } } (Operation.ofSortKeys keys)
      = .ok { query := { filter := filter, orderBy := distinct keys }
              ordered := !keys.isEmpty } := by
  cases keys with
  | nil => rfl
  | cons key rest =>
    have hstep : step schema index { query := { filter := filter } } (.orderBy key)
        = .ok ⟨{ filter := filter, orderBy := [key] }, true, false, none⟩ :=
      step_eq_ok.2 ⟨rfl, check_sortKey (hkeys key List.mem_cons_self), rfl⟩
    rw [Operation.ofSortKeys, run, hstep]
    exact run_chain (fun other hother => hkeys other (List.mem_cons_of_mem key hother)) (by simp)

/-- A first skip is that of the query. -/
theorem run_skip (schema : Schema) (skip : Option UInt64) (hopen : fold.terminal = none)
    (hskip : fold.query.skip = none) (htop : fold.query.top = none) :
    ∃ next, (∀ index, run schema index fold (skip.toList.map .skip) = .ok next)
      ∧ next.terminal = none ∧ next.query = { fold.query with skip := skip } := by
  cases skip with
  | none => exact ⟨fold, fun _ => rfl, hopen, by rw [← hskip]⟩
  | some count =>
    have hsum : addSkip? fold.query.skip count = some count := by
      rw [hskip, addSkip?, Number.natural?_eq_some_iff]
      exact (Nat.zero_add _).symm
    have hallowed : fold.refusal? (.skip count) = none := by
      simp [refusal?, hopen, hsum, Operation.seesAllRecords]
    refine ⟨fold.apply (.skip count), fun _ => run_singleton hallowed rfl, hopen, ?_⟩
    simp only [apply, hsum, htop, Option.map_none]

/-- A first limit is that of the query. -/
theorem run_take (schema : Schema) (top : Option UInt64) (hopen : fold.terminal = none)
    (htop : fold.query.top = none) :
    ∃ next, (∀ index, run schema index fold (top.toList.map .take) = .ok next)
      ∧ next.terminal = none ∧ next.query = { fold.query with top := top } := by
  cases top with
  | none => exact ⟨fold, fun _ => rfl, hopen, by rw [← htop]⟩
  | some count =>
    have hallowed : fold.refusal? (.take count) = none := by
      simp [refusal?, hopen, Operation.seesAllRecords]
    refine ⟨fold.apply (.take count), fun _ => run_singleton hallowed rfl, hopen, ?_⟩
    simp only [apply, htop, limit]

/-- **What the operations of a query are folded into**: the query with each property once in its
ordering, without a skip of nothing, and without an inline count. -/
theorem run_operations {query : Query}
    (hfilter : ∀ filter ∈ query.filter, filter.checkPredicate schema = .ok ())
    (hkeys : ∀ key ∈ query.orderBy, (schema.property? key.property).isSome) :
    ∃ fold, run schema 0 {} query.operations = .ok fold ∧ fold.terminal = none
      ∧ fold.query = { query with
          orderBy := distinct query.orderBy
          skip := query.skip.filter (0 < ·)
          inlineCount := .none } := by
  have hfiltered : run schema 0 {} (query.filter.toList.map .filter)
      = .ok { query := { filter := query.filter } } := by
    cases hsome : query.filter with
    | none => rfl
    | some filter => exact run_singleton rfl (mapError_eq_ok.2 (hfilter filter hsome))
  let sorted : Fold :=
    ⟨{ filter := query.filter, orderBy := distinct query.orderBy }, !query.orderBy.isEmpty, false,
      none⟩
  obtain ⟨skipped, hskipped, hopen, hskip⟩ :=
    run_skip schema (query.skip.filter (0 < ·)) (rfl : sorted.terminal = none) rfl rfl
  obtain ⟨taken, htaken, hopen, htake⟩ := run_take schema query.top hopen (by rw [hskip])
  refine ⟨taken, ?_, hopen, by rw [htake, hskip]⟩
  exact run_append.2 ⟨skipped, run_append.2 ⟨sorted, run_append.2 ⟨_, hfiltered,
    run_ofSortKeys hkeys⟩, hskipped _⟩, htaken _⟩

end Fold

namespace Query

/-- To skip nothing is not to skip. -/
theorem toNat_filter_skip (skip : Option UInt64) :
    ((skip.filter (0 < ·)).getD 0).toNat = (skip.getD 0).toNat := by
  cases skip with
  | none => rfl
  | some count =>
    rw [Option.filter.eq_def]
    by_cases hcount : 0 < count
    · simp [hcount]
    · have hzero : count.toNat = 0 := Nat.eq_zero_of_not_pos hcount
      simp [hcount, hzero]

/-- **Continuing a query keeps its rows.**  As a pipeline it describes itself, with each property
once in its ordering, without a skip of nothing and without an inline count; and both select the
same rows of any records. -/
theorem continuation_keeps_rows (binding : Binding ρ) (query : Query) (baseSql : String)
    (hfilter : ∀ filter ∈ query.filter, filter.checkPredicate binding.schema = .ok ())
    (hkeys : ∀ key ∈ query.orderBy, (binding.schema.property? key.property).isSome) :
    ∃ description, (Origin.query baseSql query).toPipeline.describe binding.schema = .ok description
      ∧ description.query = { query with
          orderBy := SortKey.distinct query.orderBy
          skip := query.skip.filter (0 < ·)
          inlineCount := .none }
      ∧ description.projector = .rows
      ∧ ∃ application continued, query.apply binding = .ok application
        ∧ description.query.apply binding = .ok continued
        ∧ ∀ records, continued.result.result records = application.result.result records := by
  obtain ⟨fold, hrun, hopen, hquery⟩ := Fold.run_operations hfilter hkeys
  let continuation : Query := { query with
    orderBy := SortKey.distinct query.orderBy
    skip := query.skip.filter (0 < ·)
    inlineCount := .none }
  have hdescription : (Origin.query baseSql query).toPipeline.describe binding.schema
      = .ok ⟨continuation, .sql baseSql, .rows⟩ := by
    refine Pipeline.describe_eq_ok.2 ⟨fold, hrun, ?_⟩
    rw [hopen, hquery]
    rfl
  obtain ⟨application, happlication⟩ := exists_apply hfilter hkeys
  have hkept : ∀ key ∈ continuation.orderBy,
      (binding.schema.property? key.property).isSome := fun key hkey => by
    obtain ⟨other, hother, hproperty⟩ := List.mem_map.1
      (SortKey.map_property_distinct_iff.1 (List.mem_map_of_mem hkey))
    rw [← hproperty]
    exact hkeys other hother
  obtain ⟨continued, hcontinued⟩ : ∃ continued, continuation.apply binding = .ok continued :=
    exists_apply hfilter hkept
  refine ⟨_, hdescription, rfl, rfl, application, continued, happlication, hcontinued,
    fun records => ?_⟩
  rw [Selection.result_eq (apply_eq_ok.1 hcontinued).1,
    Selection.result_eq (apply_eq_ok.1 happlication).1]
  have hskip : (continuation.skip.getD 0).toNat = (query.skip.getD 0).toNat :=
    toNat_filter_skip query.skip
  rw [pageOf, pageOf, hskip, binding.compareBy_distinct]

/-- The rule for a query that sorts by a property in both directions, skips nothing and counts. -/
theorem continuation_keeps_rows_of_repeated_keys :
    let binding : Binding (Int64 × Float) := ⟨"Note", .ofList
      [("Id", ⟨{ type := .integer }, fun note => .int note.1⟩),
        ("Weight", ⟨{ type := .double }, fun note => .float note.2⟩)]⟩
    let query : Query := {
      filter := some (.binary (.property "Id") (.comparison .ne) (.literal (.int 7)))
      orderBy := [⟨"Weight", .desc⟩, ⟨"Id", .asc⟩, ⟨"Weight", .asc⟩]
      skip := some 0
      top := some 2
      inlineCount := .allPages }
    ∃ description,
      (Origin.query "notes" query).toPipeline.describe binding.schema = .ok description
        ∧ description.query = { filter := query.filter
                                orderBy := [⟨"Weight", .desc⟩, ⟨"Id", .asc⟩]
                                top := some 2 }
        ∧ ∃ application continued, query.apply binding = .ok application
          ∧ description.query.apply binding = .ok continued
          ∧ ∀ records, continued.result.result records = application.result.result records := by
  intro binding query
  have hfilter : ∀ filter ∈ query.filter, filter.checkPredicate binding.schema = .ok () := by
    rintro filter ⟨rfl⟩
    rfl
  have hkeys : ∀ key ∈ query.orderBy, (binding.schema.property? key.property).isSome := by decide
  obtain ⟨description, hdescribe, hquery, -, hrows⟩ :=
    continuation_keeps_rows binding query "notes" hfilter hkeys
  have hdistinct : SortKey.distinct query.orderBy = [⟨"Weight", .desc⟩, ⟨"Id", .asc⟩] := by decide
  exact ⟨description, hdescribe, by rw [hquery, hdistinct]; rfl, hrows⟩

end Query

end ODataQuery
