import ODataQuery.Proofs.Records.Selection

/-!
# Pipelines executed one operation at a time

A pipeline can be run without a query: every operation turns the records that the one before it left
into others, and the last one may turn them into what the caller gets.

* `Progress`: what an operation works on.  Records remember the ordering that they have just been
  put in, whose ties a `thenBy` breaks.
* `Progress.execute`, `Progress.executeAll`: one operation, and some in their order.
* `Query.answer_filter`, `answer_orderBy`, `answer_thenBy`, `answer_skip`, `answer_take`: what the
  operations make of the answer of a query is the answer of another query.
-/

set_option autoImplicit false

namespace ODataQuery

variable {ρ : Type}

/-! ## Execution -/

/-- What the operations so far have made of the records: others, with the ordering that they have
just been put in, or a result. -/
inductive Progress (ρ : Type) where
  | records (records : List ρ) (ordering : List SortKey)
  | result (outcome : Outcome ρ)

namespace Progress

/-- One operation on what those before it have made of the records, if it can be executed there. -/
def execute (binding : Binding ρ) : Progress ρ → Operation → Option (Progress ρ)
  | records rows _, .filter predicate => some (records (rows.filter (binding.selects predicate)) [])
  | records rows _, .orderBy key => some (records (arrange (binding.compareByKey key) rows) [key])
  | records rows ordering, .thenBy key =>
    if ordering.isEmpty then none
    else some (records (arrange (binding.compareBy (ordering ++ [key])) rows) (ordering ++ [key]))
  | records rows _, .skip count => some (records (rows.drop count.toNat) [])
  | records rows _, .take count => some (records (rows.take count.toNat) [])
  | records rows _, .toList => some (result (.rows rows))
  | records rows _, .count => some (result (.count (UInt64.ofNat rows.length)))
  | records rows _, .first => some (result (.first rows.head?))
  | records rows _, .any => some (result (.any !rows.isEmpty))
  | records _ _, .distinct | records _ _, .select _ | records _ _, .groupBy _
  | records _ _, .reverse | result _, _ => none

/-- The operations one after the other. -/
def executeAll (binding : Binding ρ) (progress : Progress ρ) : List Operation → Option (Progress ρ)
  | [] => some progress
  | operation :: rest => do
    let next ← progress.execute binding operation
    next.executeAll binding rest

/-- What the caller gets; records that no operation has turned into a result are the result. -/
def outcome : Progress ρ → Outcome ρ
  | records rows _ => .rows rows
  | result outcome => outcome

end Progress

/-- The operations of a pipeline executed one after the other on a list of records. -/
def Pipeline.execute (binding : Binding ρ) (records : List ρ) (pipeline : Pipeline) :
    Option (Outcome ρ) :=
  (Progress.executeAll binding (.records records []) pipeline.operations).map Progress.outcome

/-! ## Repeated keys -/

namespace Binding

variable (binding : Binding ρ)

theorem compareLex_eq_eq {α : Type} {first second : α → α → Ordering} {a b : α} :
    compareLex first second a b = .eq ↔ first a b = .eq ∧ second a b = .eq := by
  rw [compareLex, Ordering.then_eq_eq]

/-- Records that are equal by a key are equal by every key of the same property. -/
theorem compareByKey_eq_of_property {key other : SortKey} (h : key.property = other.property)
    {a b : ρ} (heq : binding.compareByKey key a b = .eq) :
    binding.compareByKey other a b = .eq := by
  rw [compareByKey, Selection.compareValues_eq_eq] at heq ⊢
  rw [← h]
  exact heq

/-- Records that are equal by an ordering are equal by each of its keys. -/
theorem compareByKey_eq_of_compareBy {keys : List SortKey} {a b : ρ}
    (h : binding.compareBy keys a b = .eq) : ∀ key ∈ keys, binding.compareByKey key a b = .eq := by
  induction keys with
  | nil => exact fun _ hkey => nomatch hkey
  | cons first rest ih =>
    rw [compareBy, compareLex_eq_eq] at h
    intro key hkey
    rcases List.mem_cons.1 hkey with rfl | hkey
    · exact h.1
    · exact ih h.2 key hkey

/-- A last key of a property that there is a key of makes no difference. -/
theorem compareBy_lastKey (keys : List SortKey) (key : SortKey) :
    binding.compareBy (Fold.lastKey keys key) = binding.compareBy (keys ++ [key]) := by
  rw [Fold.lastKey]
  split
  · rename_i hany
    obtain ⟨other, hother, hproperty⟩ := List.any_eq_true.1 hany
    funext a b
    rw [compareBy_append, compareLex]
    cases hkeys : binding.compareBy keys a b with
    | lt => rfl
    | gt => rfl
    | eq =>
      have hequal := binding.compareByKey_eq_of_property (of_decide_eq_true hproperty)
        (binding.compareByKey_eq_of_compareBy hkeys other hother)
      rw [compareBy, compareLex, hequal]
      rfl
  · rfl

/-- The keys that a new first key takes the place of make no difference after it. -/
theorem compareBy_primaryKey (keys : List SortKey) (key : SortKey) :
    binding.compareBy (Fold.primaryKey keys key)
      = compareLex (binding.compareByKey key) (binding.compareBy keys) := by
  have hrest (a b : ρ) (htie : binding.compareByKey key a b = .eq) :
      binding.compareBy (keys.filter (·.property ≠ key.property)) a b
        = binding.compareBy keys a b := by
    induction keys with
    | nil => rfl
    | cons first rest ih =>
      by_cases hproperty : first.property = key.property
      · rw [List.filter_cons_of_neg (by simpa using hproperty), ih, compareBy, compareLex,
          binding.compareByKey_eq_of_property hproperty.symm htie]
        rfl
      · rw [List.filter_cons_of_pos (by simpa using hproperty), compareBy, compareBy, compareLex,
          compareLex, ih]
  funext a b
  rw [Fold.primaryKey, compareBy, compareLex, compareLex]
  cases htie : binding.compareByKey key a b with
  | lt => rfl
  | gt => rfl
  | eq => exact hrest a b htie

/-- The conjunction of a filter and a predicate accepts what both do. -/
theorem accepts_conjunction (filter : Option Expression) (predicate : Expression) (record : ρ) :
    binding.accepts (some (Fold.conjunction filter predicate)) record
      = (binding.accepts filter record && binding.selects predicate record) := by
  cases filter with
  | none => rfl
  | some filter =>
    rw [accepts, accepts, Option.all_some, Option.all_some, Fold.conjunction, selects, selects,
      selects, Node.resolve]
    cases hleft : Node.resolve binding filter with
    | error error => rfl
    | ok left =>
      cases hright : Node.resolve binding predicate with
      | error error => simp [bind, Except.bind]
      | ok right =>
        show (Node.connective left .and right).selects record
          = (left.selects record && right.selects record)
        rw [Node.selects_eq, Node.selects_eq, Node.selects_eq, Node.verdict, Node.verdict,
          Node.verdict, Node.evaluate_connective, Value.truth?_ofTruth]
        rcases (left.evaluate record).truth? with _ | _ | _ <;>
          rcases (right.evaluate record).truth? with _ | _ | _ <;> decide

end Binding

/-! ## Operations on answers -/

namespace Query

variable {binding : Binding ρ} {query : Query} {records : List ρ}

/-- A query that is not paged asks for all matches. -/
theorem answer_of_unpaged (hskip : query.skip = none) (htop : query.top = none) :
    query.answer binding records
      = arrange (binding.compareBy query.orderBy)
          (records.filter (binding.accepts query.filter)) := by
  rw [answer, pageOf, hskip, htop]
  rfl

/-- A query without parts asks for all records as they are. -/
theorem answer_default : ({} : Query).answer binding records = records := by
  have hall : records.filter (binding.accepts none) = records :=
    List.filter_eq_self.2 fun _ _ => rfl
  rw [answer_of_unpaged rfl rfl, hall]
  exact arrange_of_ordered (List.pairwise_of_forall fun _ _ => rfl)

/-- Leaving records out of an answer is asking for fewer. -/
theorem answer_filter (hskip : query.skip = none) (htop : query.top = none)
    (hsortable : binding.Sortable query.orderBy records) (predicate : Expression) :
    (query.answer binding records).filter (binding.selects predicate)
      = ({ query with filter := some (Fold.conjunction query.filter predicate) } : Query).answer
          binding records := by
  have hranks := Binding.ranks_compareBy hsortable
  have hmatching : records.filter (binding.accepts (some (Fold.conjunction query.filter predicate)))
      = (records.filter (binding.accepts query.filter)).filter (binding.selects predicate) := by
    rw [List.filter_filter]
    exact List.filter_congr fun record _ => by
      rw [Binding.accepts_conjunction, Bool.and_comm]
  rw [answer_of_unpaged hskip htop,
    ← arrange_filter (hranks.subset (List.filter_subset_self records)), ← hmatching]
  symm
  exact answer_of_unpaged hskip htop

/-- Sorting an answer is asking for another first key. -/
theorem answer_orderBy (hskip : query.skip = none) (htop : query.top = none) {key : SortKey}
    (hsortable : binding.Sortable (key :: query.orderBy) records) :
    arrange (binding.compareByKey key) (query.answer binding records)
      = ({ query with orderBy := Fold.primaryKey query.orderBy key } : Query).answer
          binding records := by
  have hmatching : records.filter (binding.accepts query.filter) ⊆ records :=
    List.filter_subset_self records
  have hkey := (Binding.ranks_compareByKey (hsortable key List.mem_cons_self)).subset hmatching
  have hkeys := (Binding.ranks_compareBy (hsortable.mono (List.subset_cons_self key _))).subset
    hmatching
  rw [answer_of_unpaged hskip htop, arrange_arrange hkeys hkey, ← binding.compareBy_primaryKey]
  symm
  exact answer_of_unpaged hskip htop

/-- Breaking the ties of the ordering of an answer is asking for another last key. -/
theorem answer_thenBy (hskip : query.skip = none) (htop : query.top = none) {key : SortKey}
    (hsortable : binding.Sortable (query.orderBy ++ [key]) records) {ordering : List SortKey}
    (hordering : binding.compareBy ordering = binding.compareBy query.orderBy) :
    arrange (binding.compareBy (ordering ++ [key])) (query.answer binding records)
      = ({ query with orderBy := Fold.lastKey query.orderBy key } : Query).answer
          binding records := by
  have hmatching : records.filter (binding.accepts query.filter) ⊆ records :=
    List.filter_subset_self records
  have hsame : binding.compareBy (ordering ++ [key])
      = binding.compareBy (query.orderBy ++ [key]) := by
    rw [Binding.compareBy_append, Binding.compareBy_append, hordering]
  have hboth := (Binding.ranks_compareBy hsortable).subset hmatching
  have hkeys :=
    (Binding.ranks_compareBy (hsortable.mono (List.subset_append_left _ [key]))).subset hmatching
  -- the ordering of the answer is already the first part of the new one
  have habsorbed : compareLex (binding.compareBy (query.orderBy ++ [key]))
      (binding.compareBy query.orderBy) = binding.compareBy (query.orderBy ++ [key]) := by
    funext a b
    rw [Binding.compareBy_append, compareLex, compareLex]
    cases hcmp : binding.compareBy query.orderBy a b <;> simp
  rw [answer_of_unpaged hskip htop, hsame, arrange_arrange hkeys hboth, habsorbed,
    ← binding.compareBy_lastKey]
  symm
  exact answer_of_unpaged hskip htop

/-- Dropping records of an answer is skipping more of them. -/
theorem answer_skip {count : UInt64} (h : (Fold.addSkip? query.skip count).isSome) :
    (query.answer binding records).drop count.toNat
      = ({ query with
          skip := Fold.addSkip? query.skip count
          top := query.top.map (Fold.lessSkipped · count) } : Query).answer binding records := by
  obtain ⟨skip, hskip⟩ := Option.isSome_iff_exists.1 h
  have hsum : skip.toNat = (query.skip.getD 0).toNat + count.toNat :=
    Number.natural?_eq_some_iff.1 hskip
  rw [answer, answer, pageOf, pageOf, hskip, Option.getD_some, hsum]
  cases htop : query.top with
  | none => exact List.drop_drop
  | some top =>
    have hless : (Fold.lessSkipped top count).toNat = top.toNat - count.toNat := by
      rw [Fold.lessSkipped]
      split
      · rename_i hle
        exact UInt64.toNat_sub_of_le _ _ hle
      · rename_i hlt
        rw [UInt64.le_iff_toNat_le] at hlt
        exact (Nat.sub_eq_zero_of_le (Nat.le_of_not_le hlt)).symm
    show ((List.drop _ _).take top.toNat).drop count.toNat
      = (List.drop _ _).take (Fold.lessSkipped top count).toNat
    rw [List.drop_take, List.drop_drop, hless]

/-- Taking records of an answer is asking for no more of them. -/
theorem answer_take (count : UInt64) :
    (query.answer binding records).take count.toNat
      = ({ query with top := some (Fold.limit query.top count) } : Query).answer
          binding records := by
  rw [answer, answer, pageOf, pageOf]
  cases query.top with
  | none => rfl
  | some top =>
    show ((List.drop _ _).take top.toNat).take count.toNat
      = (List.drop _ _).take (min top count).toNat
    rw [List.take_take, UInt64.toNat_min, Nat.min_comm]

end Query

end ODataQuery
