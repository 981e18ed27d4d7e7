import ODataQuery.Proofs.Pipeline.Meaning

/-!
# The ordering of a pipeline

A query sorts by each property once, by the first key that names it.  So an ordering is a list of
keys of which the later ones of a property are dropped.

* `SortKey.distinct`: the keys that remain.  A new primary key comes before all keys, a last key
  after all.
* `Binding.compareBy_distinct`: the dropped keys make no difference to the order of records.
* `Fold.run_append`: what a pipeline is folded into, by its parts.
* `Fold.nodup_run`: no query has two keys of one property.
* `Fold.orderBy_run_thenBy`: a chain of `thenBy` adds its keys behind all others.
* `Pipeline.orderBy_of_describe`: the ordering of a pipeline by its last chain, and when the chain
  comes before the keys that its `orderBy` has demoted.

A `thenBy` refines the ordering that it follows.  Yet it is put behind the demoted keys, which are
to break the ties that the chain leaves, and it is dropped if one of them has its property.
-/

set_option autoImplicit false

namespace ODataQuery

namespace SortKey

/-! ## Each property once -/

/-- The keys without those that come after another of the same property. -/
def distinct : List SortKey → List SortKey
  | [] => []
  | key :: rest => key :: (distinct rest).filter (·.property ≠ key.property)

/-- No key is dropped where no property comes twice. -/
theorem distinct_eq_self {keys : List SortKey} (h : (keys.map SortKey.property).Nodup) :
    distinct keys = keys := by
  induction keys with
  | nil => rfl
  | cons key rest ih =>
    rw [List.map_cons, List.nodup_cons] at h
    obtain ⟨hkey, hrest⟩ := h
    rw [distinct, ih hrest, List.filter_eq_self.2]
    intro other hother
    have hne : other.property ≠ key.property :=
      fun heq => hkey (heq ▸ List.mem_map_of_mem hother)
    exact decide_eq_true hne

/-- Every property is still that of a key. -/
theorem map_property_distinct_iff {keys : List SortKey} {property : String} :
    property ∈ (distinct keys).map SortKey.property ↔ property ∈ keys.map SortKey.property := by
  induction keys with
  | nil => rfl
  | cons key rest ih =>
    by_cases heq : property = key.property
    · simp [distinct, heq]
    · rw [List.map_cons, List.mem_cons, ← ih, distinct, List.map_cons, List.mem_cons]
      refine or_congr_right ?_
      simp only [List.mem_map, List.mem_filter, decide_eq_true_eq]
      constructor
      · rintro ⟨other, ⟨hother, -⟩, rfl⟩
        exact ⟨other, hother, rfl⟩
      · rintro ⟨other, hother, rfl⟩
        exact ⟨other, ⟨hother, heq⟩, rfl⟩

/-- No property is that of two of the remaining keys. -/
theorem nodup_distinct (keys : List SortKey) : ((distinct keys).map SortKey.property).Nodup := by
  induction keys with
  | nil => exact List.nodup_nil
  | cons key rest ih =>
    rw [distinct, List.map_cons, List.nodup_cons]
    refine ⟨fun hkey => ?_, (List.filter_sublist.map SortKey.property).nodup ih⟩
    obtain ⟨other, hother, heq⟩ := List.mem_map.1 hkey
    have hne : other.property ≠ key.property := by simpa using List.of_mem_filter hother
    exact hne heq

/-- Of the later keys remain those of other properties than the earlier ones. -/
theorem distinct_append (earlier later : List SortKey) :
    distinct (earlier ++ later)
      = distinct earlier
        ++ (distinct later).filter (·.property ∉ earlier.map SortKey.property) := by
  induction earlier with
  | nil => exact (List.filter_eq_self.2 fun _ _ => by simp).symm
  | cons key rest ih =>
    rw [List.cons_append, distinct, ih, distinct, List.filter_append, List.filter_filter,
      List.cons_append]
    congr 3
    funext other
    simp

/-- Keys that are distinct keep their places before further ones. -/
theorem distinct_distinct_append (earlier later : List SortKey) :
    distinct (distinct earlier ++ later) = distinct (earlier ++ later) := by
  rw [distinct_append, distinct_append, distinct_eq_self (nodup_distinct earlier)]
  congr 2
  funext other
  rw [decide_eq_decide, map_property_distinct_iff]

/-- Leaving a property out commutes with leaving repeats out. -/
theorem distinct_filter (keys : List SortKey) (property : String) :
    distinct (keys.filter (·.property ≠ property))
      = (distinct keys).filter (·.property ≠ property) := by
  induction keys with
  | nil => rfl
  | cons key rest ih =>
    by_cases heq : key.property = property
    · subst heq
      rw [List.filter_cons_of_neg (by simp), ih, distinct, List.filter_cons_of_neg (by simp),
        List.filter_filter]
      simp only [Bool.and_self]
    · rw [List.filter_cons_of_pos (by simpa using heq), distinct, ih, distinct,
        List.filter_cons_of_pos (by simpa using heq), List.filter_filter, List.filter_filter]
      simp only [Bool.and_comm]

/-- Keys whose properties all come earlier are dropped. -/
theorem distinct_append_of_subset {earlier later : List SortKey}
    (h : later.map SortKey.property ⊆ earlier.map SortKey.property) :
    distinct (earlier ++ later) = distinct earlier := by
  rw [distinct_append, List.filter_eq_nil_iff.2, List.append_nil]
  intro key hkey
  have hlater : key.property ∈ later.map SortKey.property :=
    map_property_distinct_iff.1 (List.mem_map_of_mem hkey)
  simpa using h hlater

/-- Keys that the others begin with can come before or after them. -/
theorem distinct_append_of_prefix {few many : List SortKey} (h : distinct few <+: distinct many) :
    distinct (few ++ many) = distinct many ∧ distinct (many ++ few) = distinct many := by
  refine ⟨?_, distinct_append_of_subset fun property hproperty => ?_⟩
  · obtain ⟨rest, hrest⟩ := h
    have hmany := nodup_distinct many
    rw [← hrest, List.map_append, List.nodup_append] at hmany
    obtain ⟨-, -, hapart⟩ := hmany
    rw [distinct_append, ← hrest, List.filter_append, List.filter_eq_nil_iff.2,
      List.filter_eq_self.2, List.nil_append]
    · intro key hkey
      refine decide_eq_true fun hfew => ?_
      exact hapart _ (map_property_distinct_iff.2 hfew) _ (List.mem_map_of_mem hkey) rfl
    · intro key hkey
      have hfew := map_property_distinct_iff.1 (List.mem_map_of_mem hkey)
      simpa using hfew
  · have hfew := map_property_distinct_iff.2 hproperty
    exact map_property_distinct_iff.1 (List.map_subset SortKey.property h.subset hfew)

/-- **Two orderings can change places exactly if one begins with the other.** -/
theorem distinct_append_comm_iff {left right : List SortKey} :
    distinct (left ++ right) = distinct (right ++ left)
      ↔ distinct left <+: distinct right ∨ distinct right <+: distinct left := by
  constructor
  · intro h
    have hleft : distinct left <+: distinct (left ++ right) := by
      rw [distinct_append]
      exact List.prefix_append _ _
    have hright : distinct right <+: distinct (left ++ right) := by
      rw [h, distinct_append]
      exact List.prefix_append _ _
    exact List.prefix_or_prefix_of_prefix hleft hright
  · rintro (h | h)
    · obtain ⟨hfirst, hlast⟩ := distinct_append_of_prefix h
      rw [hfirst, hlast]
    · obtain ⟨hfirst, hlast⟩ := distinct_append_of_prefix h
      rw [hfirst, hlast]

end SortKey

/-- **Keys of a property that an earlier key has make no difference.** -/
theorem Binding.compareBy_distinct {ρ : Type} (binding : Binding ρ) (keys : List SortKey) :
    binding.compareBy (SortKey.distinct keys) = binding.compareBy keys := by
  induction keys with
  | nil => rfl
  | cons key rest ih =>
    show binding.compareBy (Fold.primaryKey (SortKey.distinct rest) key) = _
    rw [compareBy_primaryKey, ih, compareBy]

namespace Fold

open SortKey

/-! ## One operation -/

/-- A primary key comes before all others. -/
theorem primaryKey_eq {keys : List SortKey} (h : (keys.map SortKey.property).Nodup)
    (key : SortKey) : primaryKey keys key = distinct (key :: keys) := by
  rw [primaryKey, distinct, distinct_eq_self h]

/-- A last key comes after all others. -/
theorem lastKey_eq {keys : List SortKey} (h : (keys.map SortKey.property).Nodup) (key : SortKey) :
    lastKey keys key = distinct (keys ++ [key]) := by
  have hsingle : distinct [key] = [key] := rfl
  rw [distinct_append, distinct_eq_self h, hsingle, lastKey]
  by_cases hmem : key.property ∈ keys.map SortKey.property
  · have hany : keys.any (·.property = key.property) = true := by simpa using hmem
    rw [if_pos hany, List.filter_cons_of_neg (by simpa using hmem), List.filter_nil,
      List.append_nil]
  · have hany : ¬ keys.any (·.property = key.property) = true := by simpa using hmem
    rw [if_neg hany, List.filter_cons_of_pos (by simpa using hmem), List.filter_nil]

/-- An operation that is no ordering leaves the keys as they are. -/
theorem orderBy_apply_of_unordered {fold : Fold} {operation : Operation}
    (h : operation.isOrdering = false) :
    (fold.apply operation).query.orderBy = fold.query.orderBy := by
  cases operation with
  | orderBy key | thenBy key => cases h
  | _ => rfl

/-- **An operation leaves no two keys of one property.** -/
theorem nodup_apply {fold : Fold} (h : (fold.query.orderBy.map SortKey.property).Nodup)
    (operation : Operation) :
    ((fold.apply operation).query.orderBy.map SortKey.property).Nodup := by
  cases operation with
  | orderBy key =>
    show ((primaryKey fold.query.orderBy key).map SortKey.property).Nodup
    rw [primaryKey_eq h]
    exact nodup_distinct _
  | thenBy key =>
    show ((lastKey fold.query.orderBy key).map SortKey.property).Nodup
    rw [lastKey_eq h]
    exact nodup_distinct _
  | _ => exact h

/-! ## All operations -/

/-- Operations after others are folded into what those have been folded into. -/
theorem run_append {schema : Schema} {before after : List Operation} {index : Nat}
    {fold final : Fold} :
    run schema index fold (before ++ after) = .ok final
      ↔ ∃ between, run schema index fold before = .ok between
        ∧ run schema (index + before.length) between after = .ok final := by
  induction before generalizing index fold with
  | nil =>
    constructor
    · intro h
      exact ⟨fold, rfl, h⟩
    · rintro ⟨between, hbetween, h⟩
      cases hbetween
      exact h
  | cons operation rest ih =>
    have hindex : index + (rest.length + 1) = index + 1 + rest.length := by omega
    rw [List.cons_append, List.length_cons, hindex, run, run, bind_eq_ok]
    constructor
    · rintro ⟨next, hstep, hrun⟩
      obtain ⟨between, hbefore, hafter⟩ := ih.1 hrun
      exact ⟨between, bind_eq_ok.2 ⟨next, hstep, hbefore⟩, hafter⟩
    · rintro ⟨between, hbefore, hafter⟩
      obtain ⟨next, hstep, hrest⟩ := bind_eq_ok.1 hbefore
      exact ⟨next, hstep, ih.2 ⟨between, hrest, hafter⟩⟩

/-- **No query has two keys of one property.** -/
theorem nodup_run {schema : Schema} {operations : List Operation} {index : Nat}
    {fold final : Fold} (hrun : run schema index fold operations = .ok final)
    (h : (fold.query.orderBy.map SortKey.property).Nodup) :
    (final.query.orderBy.map SortKey.property).Nodup := by
  induction operations generalizing index fold with
  | nil =>
    cases hrun
    exact h
  | cons operation rest ih =>
    rw [run] at hrun
    obtain ⟨next, hstep, hrest⟩ := bind_eq_ok.1 hrun
    obtain ⟨-, -, rfl⟩ := step_eq_ok.1 hstep
    exact ih hrest (nodup_apply h operation)

/-- **A chain of `thenBy` adds its keys behind all others.** -/
theorem orderBy_run_thenBy {schema : Schema} {keys : List SortKey} {index : Nat}
    {fold final : Fold} (hrun : run schema index fold (keys.map .thenBy) = .ok final)
    (h : (fold.query.orderBy.map SortKey.property).Nodup) :
    final.query.orderBy = distinct (fold.query.orderBy ++ keys) := by
  induction keys generalizing index fold with
  | nil =>
    cases hrun
    rw [List.append_nil, distinct_eq_self h]
  | cons key rest ih =>
    rw [List.map_cons, run] at hrun
    obtain ⟨next, hstep, hrest⟩ := bind_eq_ok.1 hrun
    obtain ⟨-, -, rfl⟩ := step_eq_ok.1 hstep
    have hnext : (fold.apply (.thenBy key)).query.orderBy
        = distinct (fold.query.orderBy ++ [key]) := lastKey_eq h key
    rw [ih hrest (nodup_apply h _), hnext, distinct_distinct_append, List.append_assoc,
      List.singleton_append]

/-- Operations without an ordering leave the keys as they are. -/
theorem orderBy_run_of_unordered {schema : Schema} {operations : List Operation} {index : Nat}
    {fold final : Fold} (hrun : run schema index fold operations = .ok final)
    (h : ∀ operation ∈ operations, operation.isOrdering = false) :
    final.query.orderBy = fold.query.orderBy := by
  induction operations generalizing index fold with
  | nil =>
    cases hrun
    rfl
  | cons operation rest ih =>
    rw [run] at hrun
    obtain ⟨next, hstep, hrest⟩ := bind_eq_ok.1 hrun
    obtain ⟨-, -, rfl⟩ := step_eq_ok.1 hstep
    rw [ih hrest fun other hother => h other (List.mem_cons_of_mem operation hother),
      orderBy_apply_of_unordered (h operation List.mem_cons_self)]

end Fold

namespace Pipeline

open SortKey

/-- The query of a pipeline sorts as what its operations are folded into. -/
theorem orderBy_describe (pipeline : Pipeline) {schema : Schema} {fold : Fold}
    (h : Fold.run schema 0 {} pipeline.operations = .ok fold) :
    ∃ description, pipeline.describe schema = .ok description
      ∧ description.query.orderBy = fold.query.orderBy :=
  ⟨_, bind_eq_ok.2 ⟨fold, h, rfl⟩, rfl⟩

/-- **The ordering of a pipeline by its last chain.**  The keys of the chain come behind those that
its `orderBy` has demoted, except for the primary one.  They come before these exactly if it makes no
difference: if the chain goes on with the demoted keys, or these begin with the chain's. -/
theorem orderBy_of_describe {schema : Schema} {source : Source} {before after : List Operation}
    {first : SortKey} {refining : List SortKey} {description : Description}
    (hdescribe : describe
        ⟨source, before ++ .orderBy first :: (refining.map .thenBy ++ after)⟩ schema
      = .ok description)
    (hlast : ∀ operation ∈ after, operation.isOrdering = false) :
    ∃ earlier, describe ⟨source, before⟩ schema = .ok earlier
      ∧ description.query.orderBy = distinct (first :: (earlier.query.orderBy ++ refining))
      ∧ (description.query.orderBy = distinct (first :: (refining ++ earlier.query.orderBy))
        ↔ distinct (refining.filter (·.property ≠ first.property))
            <+: earlier.query.orderBy.filter (·.property ≠ first.property)
          ∨ earlier.query.orderBy.filter (·.property ≠ first.property)
            <+: distinct (refining.filter (·.property ≠ first.property))) := by
  obtain ⟨final, hrun, hdescription⟩ := bind_eq_ok.1 hdescribe
  have hfinal : description.query.orderBy = final.query.orderBy := by
    cases hdescription
    rfl
  obtain ⟨old, hold, hrun⟩ := Fold.run_append.1 hrun
  rw [Fold.run] at hrun
  obtain ⟨primary, hstep, hrun⟩ := bind_eq_ok.1 hrun
  obtain ⟨-, -, rfl⟩ := Fold.step_eq_ok.1 hstep
  obtain ⟨chained, hchained, hafter⟩ := Fold.run_append.1 hrun
  have hnodup := Fold.nodup_run hold List.nodup_nil
  have hfirst : (old.apply (.orderBy first)).query.orderBy
      = distinct (first :: old.query.orderBy) := Fold.primaryKey_eq hnodup first
  have horder : description.query.orderBy = distinct (first :: (old.query.orderBy ++ refining)) := by
    rw [hfinal, Fold.orderBy_run_of_unordered hafter hlast,
      Fold.orderBy_run_thenBy hchained (Fold.nodup_apply hnodup _), hfirst,
      distinct_distinct_append, List.cons_append]
  obtain ⟨earlier, hearlier, hkeys⟩ := orderBy_describe ⟨source, before⟩ hold
  refine ⟨earlier, hearlier, by rw [horder, hkeys], ?_⟩
  have hdemoted : distinct (old.query.orderBy.filter (·.property ≠ first.property))
      = old.query.orderBy.filter (·.property ≠ first.property) := by
    rw [distinct_filter, distinct_eq_self hnodup]
  rw [horder, hkeys, distinct, distinct, List.cons_eq_cons, ← distinct_filter, ← distinct_filter,
    List.filter_append, List.filter_append, distinct_append_comm_iff, hdemoted, or_comm]
  exact and_iff_right rfl

/-- The rule for a chain that names the demoted keys again before one of its own. -/
theorem orderBy_of_describe_of_repeated_keys :
    let schema : Schema := ⟨"Note", .ofList
      [("A", { type := .integer }), ("B", { type := .integer }), ("C", { type := .integer })]⟩
    let before : List Operation := [.orderBy ⟨"A", .desc⟩]
    let refining : List SortKey := [⟨"A", .desc⟩, ⟨"B", .asc⟩, ⟨"C", .desc⟩, ⟨"A", .asc⟩]
    ∃ description earlier,
      describe ⟨.inMemory, before ++ .orderBy ⟨"B", .asc⟩ :: (refining.map .thenBy ++ [.take 3])⟩
          schema
        = .ok description
      ∧ describe ⟨.inMemory, before⟩ schema = .ok earlier
      ∧ description.query.orderBy = [⟨"B", .asc⟩, ⟨"A", .desc⟩, ⟨"C", .desc⟩]
      ∧ description.query.orderBy
        = distinct (⟨"B", .asc⟩ :: (refining ++ earlier.query.orderBy)) := by
  intro schema before refining
  have hdescribe : ∃ description, describe
      ⟨.inMemory, before ++ .orderBy ⟨"B", .asc⟩ :: (refining.map .thenBy ++ [.take 3])⟩ schema
        = .ok description := ⟨_, rfl⟩
  obtain ⟨description, hdescribe⟩ := hdescribe
  have hlast : ∀ operation ∈ [Operation.take 3], operation.isOrdering = false := by
    intro operation hoperation
    rw [List.mem_singleton.1 hoperation]
    rfl
  obtain ⟨earlier, hearlier, horder, hchain⟩ := orderBy_of_describe hdescribe hlast
  have hearlier' := hearlier
  cases hearlier'
  refine ⟨description, _, hdescribe, hearlier, ?_, hchain.2 (.inr ?_)⟩
  · rw [horder]
    decide
  · decide

/-- Of a chain of two, the first key comes behind a demoted one and the second is dropped. -/
theorem exists_chain_behind_demoted :
    ∃ (schema : Schema) (description earlier : Description),
      describe ⟨.inMemory, [.orderBy ⟨"A", .desc⟩, .orderBy ⟨"B", .asc⟩, .thenBy ⟨"C", .asc⟩,
          .thenBy ⟨"A", .asc⟩]⟩ schema
        = .ok description
      ∧ describe ⟨.inMemory, [.orderBy ⟨"A", .desc⟩]⟩ schema = .ok earlier
      ∧ description.query.orderBy = [⟨"B", .asc⟩, ⟨"A", .desc⟩, ⟨"C", .asc⟩]
      ∧ distinct (⟨"B", .asc⟩ :: ([⟨"C", .asc⟩, ⟨"A", .asc⟩] ++ earlier.query.orderBy))
        = [⟨"B", .asc⟩, ⟨"C", .asc⟩, ⟨"A", .asc⟩] :=
  ⟨⟨"Note", .ofList
      [("A", { type := .integer }), ("B", { type := .integer }), ("C", { type := .integer })]⟩,
    _, _, rfl, rfl, by decide, by decide⟩

end Pipeline

end ODataQuery
