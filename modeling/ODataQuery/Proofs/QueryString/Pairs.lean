import Mathlib.Data.List.Count
import Mathlib.Data.List.Nodup
import ODataQuery.Proofs.Dictionary
import ODataQuery.QueryString.Parameters

/-!
# Which pairs of a query count

A pair counts if it has the key of a parameter and a text that is not blank.  The others can stand
anywhere, and those that count in any order: a query is read from the text that is found for each
parameter.

* `Parameters.given?`: what one pair gives; `add_of_not_mem` and `add_of_mem` are one step of
  collecting.
* `Parameters.collect_of_nodup`, `collect_of_repeated`: what is collected from all pairs, and which
  failure there is if a parameter is given twice; by induction over the pairs.
* `Parameters.lookup_eq_of_perm`: if no parameter is given twice, the order does not matter.
* `Parameters.collect_pairs`: parameters that were collected are collected again as they are, so a
  query is the same whether its pairs are collected once or twice (`Query.parse_pairs`).
* `Query.parse_of_perm`: so queries from pairs that count alike are the same, or fail alike.
-/

set_option autoImplicit false

namespace ODataQuery

namespace Parameter

theorem mem_all (parameter : Parameter) : parameter ∈ all := by
  cases parameter <;> decide

theorem eq_key_of_ofKey? {key : String} {parameter : Parameter}
    (h : ofKey? key = some parameter) : key = parameter.key := by
  have hfound := List.find?_some h
  exact (beq_iff_eq.1 hfound).symm

theorem key_injective : Function.Injective key := by
  intro a b h
  have ha := ofKey?_key a
  rw [h, ofKey?_key b] at ha
  exact (Option.some.inj ha).symm

end Parameter

namespace Parameters

variable {pairs pairs' : List (String × String)} {parameters parameters' : Parameters}

/-! ## Pairs that count -/

/-- Does the pair count: it has the key of a parameter, and its text is not blank. -/
def counts (pair : String × String) : Bool :=
  (Parameter.ofKey? pair.1).isSome && !Text.isBlankText pair.2

/-- The parameter and the text that a pair gives. -/
def given? (pair : String × String) : Option (Parameter × String) :=
  (Parameter.ofKey? pair.1).bind fun parameter =>
    if Text.isBlankText pair.2 then none else some (parameter, pair.2)

theorem isSome_given? (pair : String × String) : (given? pair).isSome = counts pair := by
  rw [given?, counts]
  cases Parameter.ofKey? pair.1 with
  | none => rfl
  | some parameter => cases Text.isBlankText pair.2 <;> rfl

theorem given?_eq_some {pair : String × String} {entry : Parameter × String} :
    given? pair = some entry ↔ Parameter.ofKey? pair.1 = some entry.1
      ∧ Text.isBlankText pair.2 = false ∧ pair.2 = entry.2 := by
  rw [given?, Option.bind_eq_some_iff]
  constructor
  · rintro ⟨parameter, hparameter, h⟩
    split at h
    · cases h
    · rename_i hblank
      cases h
      exact ⟨hparameter, Bool.eq_false_iff.2 hblank, rfl⟩
  · rintro ⟨hparameter, hblank, htext⟩
    refine ⟨entry.1, hparameter, ?_⟩
    rw [hblank, if_neg Bool.false_ne_true, htext]

/-- Only the pairs that count give something. -/
theorem filterMap_given? (pairs : List (String × String)) :
    (pairs.filter counts).filterMap given? = pairs.filterMap given? := by
  rw [List.filterMap_filter]
  refine List.filterMap_congr fun pair _ => ?_
  rw [← isSome_given?]
  cases given? pair <;> rfl

/-- The keys of the pairs that count are those of the parameters that are given. -/
theorem map_fst_filter_counts (pairs : List (String × String)) :
    (pairs.filter counts).map Prod.fst
      = ((pairs.filterMap given?).map Prod.fst).map Parameter.key := by
  induction pairs with
  | nil => rfl
  | cons pair rest ih =>
    cases hgiven : given? pair with
    | none =>
      have hcounts : counts pair = false := by rw [← isSome_given?, hgiven]; rfl
      rw [List.filter_cons_of_neg (by simp [hcounts]), List.filterMap_cons_none hgiven, ih]
    | some entry =>
      have hcounts : counts pair = true := by rw [← isSome_given?, hgiven]; rfl
      rw [List.filter_cons_of_pos hcounts, List.filterMap_cons_some hgiven, List.map_cons,
        List.map_cons, List.map_cons, ih,
        Parameter.eq_key_of_ofKey? (given?_eq_some.1 hgiven).1]

theorem nodup_map_fst_filter_counts :
    ((pairs.filter counts).map Prod.fst).Nodup
      ↔ ((pairs.filterMap given?).map Prod.fst).Nodup := by
  rw [map_fst_filter_counts, List.nodup_map_iff Parameter.key_injective]

/-! ## Collecting -/

variable {pair : String × String} {entry : Parameter × String}

theorem add_of_given?_eq_none (h : given? pair = none) : add parameters pair = .ok parameters := by
  rw [given?] at h
  rw [add]
  cases hparameter : Parameter.ofKey? pair.1 with
  | none => rfl
  | some parameter =>
    rw [hparameter, Option.bind_some] at h
    split at h
    · rename_i hblank
      exact if_pos hblank
    · cases h

/-- What a pair gives is added at the end. -/
theorem add_of_not_mem (h : given? pair = some entry) (hnew : entry.1 ∉ parameters.map Prod.fst) :
    add parameters pair = .ok (parameters ++ [entry]) := by
  obtain ⟨parameter, text⟩ := entry
  obtain ⟨hparameter, hblank, rfl⟩ := given?_eq_some.1 h
  rw [← isSome_lookup_iff] at hnew
  rw [add, hparameter]
  simp only [hblank, if_neg hnew, Bool.false_eq_true, if_false]

/-- A second text of a parameter is refused. -/
theorem add_of_mem (h : given? pair = some entry) (hmem : entry.1 ∈ parameters.map Prod.fst) :
    add parameters pair = .error ⟨entry.1, 0, .repeated entry.1.key⟩ := by
  obtain ⟨hparameter, hblank, -⟩ := given?_eq_some.1 h
  rw [← isSome_lookup_iff] at hmem
  rw [add, hparameter]
  simp only [hblank, if_pos hmem, Bool.false_eq_true, if_false]

/-- **What is collected**, if no parameter is given twice. -/
theorem foldlM_add
    (hnodup : ((parameters ++ pairs.filterMap given?).map Prod.fst).Nodup) :
    pairs.foldlM add parameters = .ok (parameters ++ pairs.filterMap given?) := by
  induction pairs generalizing parameters with
  | nil =>
    rw [List.filterMap_nil, List.append_nil]
    rfl
  | cons pair rest ih =>
    cases hgiven : given? pair with
    | none =>
      rw [List.filterMap_cons_none hgiven] at hnodup ⊢
      rw [List.foldlM_cons, add_of_given?_eq_none hgiven]
      exact ih hnodup
    | some entry =>
      rw [List.filterMap_cons_some hgiven] at hnodup ⊢
      have hnew : entry.1 ∉ parameters.map Prod.fst := by
        rw [List.map_append, List.map_cons, List.nodup_append] at hnodup
        intro hmem
        exact hnodup.2.2 entry.1 hmem entry.1 List.mem_cons_self rfl
      rw [List.append_cons] at hnodup ⊢
      rw [List.foldlM_cons, add_of_not_mem hgiven hnew]
      exact ih hnodup

/-- **A parameter that is given twice is found**, and no other fault. -/
theorem foldlM_add_of_repeated (hsofar : (parameters.map Prod.fst).Nodup)
    (hrepeated : ¬ ((parameters ++ pairs.filterMap given?).map Prod.fst).Nodup) :
    ∃ parameter : Parameter,
      pairs.foldlM add parameters = .error ⟨parameter, 0, .repeated parameter.key⟩
        ∧ 1 < ((parameters ++ pairs.filterMap given?).map Prod.fst).count parameter := by
  induction pairs generalizing parameters with
  | nil =>
    rw [List.filterMap_nil, List.append_nil] at hrepeated
    exact absurd hsofar hrepeated
  | cons pair rest ih =>
    cases hgiven : given? pair with
    | none =>
      rw [List.filterMap_cons_none hgiven] at hrepeated ⊢
      rw [List.foldlM_cons, add_of_given?_eq_none hgiven]
      exact ih hsofar hrepeated
    | some entry =>
      rw [List.filterMap_cons_some hgiven] at hrepeated ⊢
      by_cases hmem : entry.1 ∈ parameters.map Prod.fst
      · refine ⟨entry.1, ?_, ?_⟩
        · rw [List.foldlM_cons, add_of_mem hgiven hmem]
          rfl
        · have hfirst := List.count_pos_iff.2 hmem
          rw [List.map_append, List.count_append, List.map_cons, List.count_cons_self]
          omega
      · have hnext : ((parameters ++ [entry]).map Prod.fst).Nodup := by
          rw [List.map_append, List.map_singleton]
          exact List.nodup_append.2 ⟨hsofar, List.nodup_singleton _, fun a ha b hb hab =>
            hmem (List.mem_singleton.1 hb ▸ hab ▸ ha)⟩
        rw [List.append_cons] at hrepeated ⊢
        rw [List.foldlM_cons, add_of_not_mem hgiven hmem]
        exact ih hnext hrepeated

theorem collect_of_nodup (h : ((pairs.filterMap given?).map Prod.fst).Nodup) :
    collect pairs = .ok (pairs.filterMap given?) :=
  foldlM_add h

theorem collect_of_repeated (h : ¬ ((pairs.filterMap given?).map Prod.fst).Nodup) :
    ∃ parameter : Parameter, collect pairs = .error ⟨parameter, 0, .repeated parameter.key⟩
      ∧ 1 < ((pairs.filterMap given?).map Prod.fst).count parameter :=
  foldlM_add_of_repeated List.nodup_nil h

/-! ## The order of parameters -/

/-- If no parameter is given twice, the texts that are found do not depend on the order. -/
theorem lookup_eq_of_perm (hnodup : (parameters.map Prod.fst).Nodup)
    (h : parameters.Perm parameters') (parameter : Parameter) :
    parameters.lookup parameter = parameters'.lookup parameter := by
  have hnodup' : (parameters'.map Prod.fst).Nodup := (h.map Prod.fst).nodup_iff.1 hnodup
  cases hfound : parameters.lookup parameter with
  | none =>
    have hkeys := (h.map Prod.fst).mem_iff (a := parameter)
    rw [← isSome_lookup_iff, ← isSome_lookup_iff, hfound] at hkeys
    cases hfound' : parameters'.lookup parameter with
    | none => rfl
    | some text => simp [hfound'] at hkeys
  | some text =>
    obtain ⟨before, after, heq, -⟩ := List.lookup_eq_some_iff.1 hfound
    have hmem : (parameter, text) ∈ parameters := by simp [heq]
    exact (lookup_of_mem hnodup' (h.mem_iff.1 hmem)).symm

/-! ## Collecting again -/

/-- The parameters in order are those for which a text is found. -/
theorem mem_inOrder : entry ∈ parameters.inOrder ↔ parameters.lookup entry.1 = some entry.2 := by
  obtain ⟨parameter, text⟩ := entry
  rw [inOrder, List.mem_filterMap]
  constructor
  · rintro ⟨found, -, h⟩
    obtain ⟨text, hfound, h⟩ := Option.map_eq_some_iff.1 h
    cases h
    exact hfound
  · intro hfound
    exact ⟨parameter, parameter.mem_all, by rw [hfound, Option.map_some]⟩

/-- In order, no parameter is listed twice. -/
theorem nodup_map_fst_inOrder (parameters : Parameters) :
    (parameters.inOrder.map Prod.fst).Nodup := by
  have hall : Parameter.all.Nodup := by decide
  rw [inOrder, List.map_filterMap]
  refine hall.filterMap fun a b parameter ha hb => ?_
  rw [Option.mem_def, Option.map_map, Option.map_eq_some_iff] at ha hb
  obtain ⟨_, -, rfl⟩ := ha
  obtain ⟨_, -, rfl⟩ := hb
  rfl

/-- The order that parameters are read in keeps the texts that are found. -/
theorem lookup_inOrder (parameters : Parameters) (parameter : Parameter) :
    parameters.inOrder.lookup parameter = parameters.lookup parameter := by
  cases hfound : parameters.lookup parameter with
  | none =>
    refine lookup_eq_none_iff_not_mem.2 fun hmem => ?_
    obtain ⟨entry, hentry, rfl⟩ := List.mem_map.1 hmem
    rw [mem_inOrder, hfound] at hentry
    cases hentry
  | some text => exact lookup_of_mem parameters.nodup_map_fst_inOrder (mem_inOrder.2 hfound)

theorem collect_eq_ok : collect pairs = .ok parameters
    ↔ ((pairs.filterMap given?).map Prod.fst).Nodup ∧ parameters = pairs.filterMap given? := by
  by_cases hnodup : ((pairs.filterMap given?).map Prod.fst).Nodup
  · rw [collect_of_nodup hnodup, Except.ok.injEq]
    exact ⟨fun h => ⟨hnodup, h.symm⟩, fun h => h.2.symm⟩
  · obtain ⟨parameter, hcollect, -⟩ := collect_of_repeated hnodup
    rw [hcollect]
    exact ⟨nofun, fun h => absurd h.1 hnodup⟩

/-- What was collected counts again, under the key of its parameter. -/
theorem given?_of_collect (h : collect pairs = .ok parameters)
    (hentry : parameters.lookup entry.1 = some entry.2) :
    given? (entry.1.key, entry.2) = some entry := by
  obtain ⟨-, rfl⟩ := collect_eq_ok.1 h
  obtain ⟨before, after, heq, -⟩ := List.lookup_eq_some_iff.1 hentry
  have hmem : entry ∈ pairs.filterMap given? := by simp [heq]
  obtain ⟨pair, -, hgiven⟩ := List.mem_filterMap.1 hmem
  obtain ⟨-, hblank, htext⟩ := given?_eq_some.1 hgiven
  exact given?_eq_some.2 ⟨Parameter.ofKey?_key entry.1, htext ▸ hblank, rfl⟩

/-- **Collecting twice is collecting once**: the second time, every parameter counts and none is
given twice. -/
theorem collect_pairs (h : collect pairs = .ok parameters) :
    collect parameters.pairs = .ok parameters.inOrder := by
  have hgiven : parameters.pairs.filterMap given? = parameters.inOrder := by
    rw [Parameters.pairs, List.filterMap_map]
    refine (List.filterMap_congr fun entry hentry => ?_).trans List.filterMap_some
    exact given?_of_collect h (mem_inOrder.1 hentry)
  rw [collect_eq_ok, hgiven]
  exact ⟨parameters.nodup_map_fst_inOrder, rfl⟩

end Parameters

namespace Query

open Parameters (counts given?)

variable {pairs pairs' : List (String × String)}

/-- A query depends only on the text that is found for each parameter. -/
theorem ofParameters_congr (schema : Schema) {parameters parameters' : Parameters}
    (h : ∀ parameter, parameters.lookup parameter = parameters'.lookup parameter) :
    ofParameters schema parameters = ofParameters schema parameters' := by
  simp only [ofParameters, Parameters.read, h]

/-- A query is read alike from pairs and from the parameters that are collected from them. -/
theorem parse_pairs (schema : Schema) {parameters : Parameters}
    (h : Parameters.collect pairs = .ok parameters) :
    parse schema parameters.pairs = parse schema pairs := by
  rw [parse, parse, Parameters.collect_pairs h, h]
  exact ofParameters_congr schema parameters.lookup_inOrder

/-- Pairs that give a parameter twice are refused before anything is read. -/
theorem parse_of_repeated (schema : Schema)
    (hrepeated : ¬ ((pairs.filter counts).map Prod.fst).Nodup) :
    ∃ parameter : Parameter, parse schema pairs = .error ⟨parameter, 0, .repeated parameter.key⟩
      ∧ 1 < ((pairs.filter counts).map Prod.fst).count parameter.key := by
  rw [Parameters.nodup_map_fst_filter_counts] at hrepeated
  obtain ⟨parameter, hcollect, hcount⟩ := Parameters.collect_of_repeated hrepeated
  refine ⟨parameter, ?_, ?_⟩
  · rw [parse, hcollect]
    rfl
  · rw [Parameters.map_fst_filter_counts, List.count_map_of_injective _ _ Parameter.key_injective]
    exact hcount

/-- **The order of the pairs does not matter, nor do those that do not count.** -/
theorem parse_of_perm (schema : Schema)
    (h : (pairs.filter counts).Perm (pairs'.filter counts)) :
    (((pairs.filter counts).map Prod.fst).Nodup → parse schema pairs = parse schema pairs')
      ∧ (¬ ((pairs.filter counts).map Prod.fst).Nodup →
        ∃ error error', parse schema pairs = .error error ∧ parse schema pairs' = .error error'
          ∧ error.failure.fault.kind = .syntaxError
          ∧ error'.failure.fault.kind = .syntaxError) := by
  have hgiven : (pairs.filterMap given?).Perm (pairs'.filterMap given?) := by
    rw [← Parameters.filterMap_given? pairs, ← Parameters.filterMap_given? pairs']
    exact h.filterMap given?
  have hkeys := (h.map Prod.fst).nodup_iff
  constructor
  · intro hnodup
    have hdistinct := Parameters.nodup_map_fst_filter_counts.1 hnodup
    have hdistinct' := Parameters.nodup_map_fst_filter_counts.1 (hkeys.1 hnodup)
    rw [parse, parse, Parameters.collect_of_nodup hdistinct, Parameters.collect_of_nodup hdistinct']
    exact ofParameters_congr schema (Parameters.lookup_eq_of_perm hdistinct hgiven)
  · intro hrepeated
    obtain ⟨parameter, hparse, -⟩ := parse_of_repeated schema hrepeated
    obtain ⟨parameter', hparse', -⟩ := parse_of_repeated schema fun hnodup =>
      hrepeated (hkeys.2 hnodup)
    exact ⟨_, _, hparse, hparse', rfl, rfl⟩

/-- Two faults in another order, of which the filter is read first; and a number that is given
twice, which is found before the fault in the filter. -/
theorem parse_of_perm_of_faults :
    let schema : Schema := ⟨"Note", .ofList [("Id", { type := .integer })]⟩
    let faults := [("$skip", "-1"), ("format", "json"), ("$filter", "Id eq"), ("$top", " ")]
    let faults' := [("$filter", "Id eq"), ("$top", ""), ("$skip", "-1")]
    let repeats := [("$top", "1"), ("$filter", "Id eq"), ("$top", "2")]
    let repeats' := [("$top", "2"), ("$filter", "Id eq"), ("$top", "\t"), ("$top", "1")]
    parse schema faults = .error ⟨.filter, 5, .unexpectedEnd⟩
      ∧ parse schema faults' = .error ⟨.filter, 5, .unexpectedEnd⟩
      ∧ ∃ error error', parse schema repeats = .error error ∧ parse schema repeats' = .error error'
        ∧ error.failure.fault.kind = .syntaxError ∧ error'.failure.fault.kind = .syntaxError := by
  intro schema faults faults' repeats repeats'
  have hfaults : (faults.filter counts).Perm (faults'.filter counts) := by decide
  have hrepeats : (repeats.filter counts).Perm (repeats'.filter counts) := by decide
  have hparse : parse schema faults' = .error ⟨.filter, 5, .unexpectedEnd⟩ := by
    have hfailure : failure? (parse schema faults') = some ⟨.filter, 5, .unexpectedEnd⟩ := by
      decide +kernel
    cases hread : parse schema faults' with
    | error error =>
      rw [hread] at hfailure
      rw [Option.some.inj hfailure]
    | ok query =>
      rw [hread] at hfailure
      cases hfailure
  exact ⟨((parse_of_perm schema hfaults).1 (by decide)).trans hparse, hparse,
    (parse_of_perm schema hrepeats).2 (by decide)⟩

end Query
end ODataQuery
