import ODataQuery.Proofs.Pipeline.Ordering

/-!
# Where a pipeline is refused

The fold of a pipeline keeps flags and sums, and whether an operation is allowed is read off these.
But what makes an operation offend can be said of the operations before it: one that ended the
pipeline, one that took a page, one that sorted just now, and all that were skipped.

* `Refusal.AppliesTo`, `Operation.Misfits`: what is wrong with an operation after others, and what
  is wrong with it wherever it stands.
* `Fold.Reflects`: what the fold keeps of the operations so far.  An allowed operation keeps it so
  (`Fold.reflects_step`).
* `Fold.refusal?_eq_none_iff`, `Fold.appliesTo_of_refusal?`: the fold refuses the operations to which
  a refusal applies, and gives one that does.
* `Fold.run_reflects`, `Fold.run_reports`: a run succeeds only if no operation offends, and otherwise
  ends at the first that does.
* `Pipeline.describe_rejects_first_offence`: so it is with a pipeline.
-/

set_option autoImplicit false

namespace ODataQuery

/-! ## Offences -/

namespace Operation

/-- Does the operation end a pipeline. -/
def isTerminal : Operation → Bool
  | toList | count | first | any => true
  | _ => false

/-- Does the operation take a page. -/
def isPaging : Operation → Bool
  | skip _ | take _ => true
  | _ => false

/-- Can a query express the operation anywhere. -/
def hasQueryEquivalent : Operation → Bool
  | distinct | select _ | groupBy _ | reverse => false
  | _ => true

/-- How many records the operation skips. -/
def skipCount : Operation → Nat
  | skip n => n.toNat
  | _ => 0

/-- How many records operations skip together. -/
def skipped : List Operation → Nat
  | [] => 0
  | operation :: rest => operation.skipCount + skipped rest

/-- The operation filters by what is no condition or sorts by an unknown property, wherever it
stands; the error is that of the predicate or the property. -/
def Misfits (schema : Schema) (operation : Operation) (error : PipelineError) : Prop :=
  match operation with
  | filter predicate =>
    ∃ cause, predicate.checkPredicate schema = .error cause ∧ error = .ofCheck cause
  | orderBy key | thenBy key =>
    ∃ cause, schema.lookup key.property = .error cause ∧ error = .schema cause
  | _ => False

end Operation

/-- The reason for a refusal is there: what it says of an operation is true after these others. -/
def Refusal.AppliesTo (before : List Operation) (operation : Operation) : Refusal → Prop
  | materialized => ∃ earlier ∈ before, earlier.isTerminal = true
  | paged => operation.seesAllRecords = true ∧ ∃ earlier ∈ before, earlier.isPaging = true
  | notAfterOrdering =>
    (∃ key, operation = .thenBy key) ∧ ∀ previous ∈ before.getLast?, previous.isOrdering = false
  | skipOverflow =>
    (∃ count, operation = .skip count) ∧ UInt64.size ≤ Operation.skipped (before ++ [operation])
  | noQueryEquivalent => operation.hasQueryEquivalent = false

/-- There is something wrong with an operation after these others. -/
def Operation.Offends (schema : Schema) (before : List Operation) (operation : Operation) : Prop :=
  (∃ refusal : Refusal, refusal.AppliesTo before operation)
    ∨ ∃ error, operation.Misfits schema error

/-- The error by which an offence is reported.  A refusal names the index and the operation, and
comes before what is wrong with the operation itself. -/
def Operation.ReportedBy (schema : Schema) (before : List Operation) (operation : Operation)
    (error : PipelineError) : Prop :=
  (∃ refusal : Refusal, refusal.AppliesTo before operation
      ∧ error = .unsupported before.length operation.name refusal)
    ∨ (∀ refusal : Refusal, ¬ refusal.AppliesTo before operation)
      ∧ operation.Misfits schema error

/-- The operation at an index offends, after those before it and others before all. -/
def Operation.OffendsAt (schema : Schema) (before operations : List Operation) (index : Nat) :
    Prop :=
  ∃ operation, operations[index]? = some operation
    ∧ operation.Offends schema (before ++ operations.take index)

namespace Fold

open Operation (skipped OffendsAt)

variable {schema : Schema} {fold : Fold} {before : List Operation} {operation : Operation}

/-- What an operation asks of the schema is that it does not misfit. -/
theorem check_eq_error {error : PipelineError} :
    check schema operation = .error error ↔ operation.Misfits schema error := by
  cases operation with
  | filter predicate =>
    rw [check, mapError_eq_error]
    simp only [Operation.Misfits, eq_comm]
  | orderBy key | thenBy key =>
    rw [check, Operation.Misfits]
    cases schema.lookup key.property <;> simp [eq_comm]
  | _ =>
    constructor
    · intro h
      cases h
    · exact False.elim

theorem check_eq_ok : check schema operation = .ok () ↔ ∀ error, ¬ operation.Misfits schema error := by
  simp only [← check_eq_error]
  cases check schema operation with
  | ok result => simp
  | error error => simp

/-! ## What the fold keeps -/

/-- The fold keeps what has to be known of the operations so far. -/
structure Reflects (fold : Fold) (before : List Operation) : Prop where
  terminal : fold.terminal.isSome = before.any Operation.isTerminal
  counts : fold.terminal = some .count ↔ .count ∈ before
  paged : fold.paged = before.any Operation.isPaging
  ordered : fold.ordered = before.getLast?.any Operation.isOrdering
  unskipped : fold.query.skip = none ↔ ∀ count, .skip count ∉ before
  skip : (fold.query.skip.getD 0).toNat = skipped before

theorem reflects_nil : Reflects {} [] where
  terminal := rfl
  counts := by simp
  paged := rfl
  ordered := rfl
  unskipped := by simp
  skip := rfl

theorem skipped_append (before after : List Operation) :
    skipped (before ++ after) = skipped before + skipped after := by
  induction before with
  | nil => rw [List.nil_append, skipped, Nat.zero_add]
  | cons operation rest ih => rw [List.cons_append, skipped, ih, skipped, Nat.add_assoc]

/-- The sum of the skips has a place in the query as long as it has 64 bits. -/
theorem isSome_addSkip?_iff (h : Reflects fold before) (count : UInt64) :
    (addSkip? fold.query.skip count).isSome = true
      ↔ skipped (before ++ [.skip count]) < UInt64.size := by
  have hsum : skipped (before ++ [.skip count])
      = (fold.query.skip.getD 0).toNat + count.toNat := by
    rw [skipped_append, h.skip]
    simp [skipped, Operation.skipCount]
  rw [hsum, addSkip?, Number.natural?]
  split <;> simp_all

/-- An operation is only allowed if a query can express it. -/
theorem hasQueryEquivalent_of_allowed (h : fold.refusal? operation = none) :
    operation.hasQueryEquivalent = true := by
  rw [refusal?.eq_def, terminal_of_allowed h] at h
  cases operation with
  | distinct | select _ | groupBy _ | reverse =>
    cases hpaged : fold.paged <;> rw [hpaged] at h <;> cases h
  | _ => rfl

/-- **The fold gives a reason that is there.** -/
theorem appliesTo_of_refusal? (h : Reflects fold before) {refusal : Refusal}
    (hrefusal : fold.refusal? operation = some refusal) :
    refusal.AppliesTo before operation := by
  rw [refusal?.eq_def] at hrefusal
  split at hrefusal
  · rename_i hterminal
    cases hrefusal
    rw [h.terminal, List.any_eq_true] at hterminal
    exact hterminal
  · split at hrefusal
    · rename_i hpaged
      cases hrefusal
      rw [Bool.and_eq_true, h.paged, List.any_eq_true] at hpaged
      exact ⟨hpaged.2, hpaged.1⟩
    · cases operation with
      | thenBy key =>
        cases hordered : fold.ordered with
        | true => simp [hordered] at hrefusal
        | false =>
          obtain rfl : Refusal.notAfterOrdering = refusal := by simpa [hordered] using hrefusal
          rw [h.ordered] at hordered
          refine ⟨⟨key, rfl⟩, fun previous hprevious => ?_⟩
          rw [Option.mem_def] at hprevious
          simpa [hprevious] using hordered
      | skip count =>
        cases hsum : (addSkip? fold.query.skip count).isSome with
        | true => simp [hsum] at hrefusal
        | false =>
          obtain rfl : Refusal.skipOverflow = refusal := by simpa [hsum] using hrefusal
          refine ⟨⟨count, rfl⟩, Nat.le_of_not_lt fun hlt => ?_⟩
          rw [(isSome_addSkip?_iff h count).2 hlt] at hsum
          cases hsum
      | distinct | select _ | groupBy _ | reverse =>
        cases hrefusal
        rfl
      | _ => cases hrefusal

/-- **The fold refuses the operations to which a refusal applies.** -/
theorem refusal?_eq_none_iff (h : Reflects fold before) :
    fold.refusal? operation = none ↔ ∀ refusal : Refusal, ¬ refusal.AppliesTo before operation := by
  constructor
  · intro hallowed refusal happlies
    cases refusal with
    | materialized =>
      have hterminal := List.any_eq_true.2 happlies
      rw [← h.terminal, terminal_of_allowed hallowed] at hterminal
      cases hterminal
    | paged =>
      have hpaged := List.any_eq_true.2 happlies.2
      rw [← h.paged, unpaged_of_allowed hallowed happlies.1] at hpaged
      cases hpaged
    | notAfterOrdering =>
      obtain ⟨⟨key, rfl⟩, hlast⟩ := happlies
      have hordered := ordered_of_allowed hallowed
      rw [h.ordered, Option.any_eq_true] at hordered
      obtain ⟨previous, hprevious, hordering⟩ := hordered
      rw [hlast previous hprevious] at hordering
      cases hordering
    | skipOverflow =>
      obtain ⟨⟨count, rfl⟩, hle⟩ := happlies
      have hlt := (isSome_addSkip?_iff h count).1 (isSome_addSkip?_of_allowed hallowed)
      exact absurd hlt (Nat.not_lt_of_le hle)
    | noQueryEquivalent =>
      rw [Refusal.AppliesTo, hasQueryEquivalent_of_allowed hallowed] at happlies
      cases happlies
  · intro hnone
    cases hrefusal : fold.refusal? operation with
    | none => rfl
    | some refusal => exact absurd (appliesTo_of_refusal? h hrefusal) (hnone refusal)

/-- **An allowed operation is kept with those before it.** -/
theorem reflects_step (h : Reflects fold before) (hallowed : fold.refusal? operation = none) :
    Reflects (fold.apply operation) (before ++ [operation]) := by
  have hopen := terminal_of_allowed hallowed
  have hnoTerminal := h.terminal
  rw [hopen] at hnoTerminal
  have hnoCount := h.counts
  rw [hopen] at hnoCount
  refine ⟨?_, ?_, ?_, ?_, ?_, ?_⟩
  · rw [List.any_append, ← hnoTerminal]
    cases operation <;> simp [apply, Operation.isTerminal, hopen]
  · cases operation <;> simp [apply, hopen, ← hnoCount]
  · rw [List.any_append, ← h.paged]
    cases operation <;> simp [apply, Operation.isPaging]
  · rw [List.getLast?_concat]
    cases operation <;> rfl
  · cases operation with
    | skip count =>
      have hsome := isSome_addSkip?_of_allowed hallowed
      rw [Option.isSome_iff_ne_none] at hsome
      exact iff_of_false hsome fun hnone => hnone count (by simp)
    | _ => simp [apply, h.unskipped]
  · rw [skipped_append, ← h.skip]
    cases operation with
    | skip count =>
      obtain ⟨sum, hsum⟩ := Option.isSome_iff_exists.1 (isSome_addSkip?_of_allowed hallowed)
      have htoNat := Number.natural?_eq_some_iff.1 hsum
      simp only [apply, hsum, Option.getD_some, htoNat, skipped, Operation.skipCount, Nat.add_zero]
    | _ => simp [apply, skipped, Operation.skipCount]

/-! ## One operation -/

/-- What is reported is an offence. -/
theorem offends_of_reportedBy {error : PipelineError}
    (h : operation.ReportedBy schema before error) : operation.Offends schema before := by
  rcases h with ⟨refusal, happlies, -⟩ | ⟨-, hmisfits⟩
  · exact .inl ⟨refusal, happlies⟩
  · exact .inr ⟨error, hmisfits⟩

/-- An operation that does not fail is allowed, and kept. -/
theorem step_reflects (h : Reflects fold before) {index : Nat} {next : Fold}
    (hstep : step schema index fold operation = .ok next) :
    ¬ operation.Offends schema before ∧ Reflects next (before ++ [operation]) := by
  obtain ⟨hallowed, hcheck, rfl⟩ := step_eq_ok.1 hstep
  refine ⟨?_, reflects_step h hallowed⟩
  rintro (⟨refusal, happlies⟩ | ⟨error, hmisfits⟩)
  · exact (refusal?_eq_none_iff h).1 hallowed refusal happlies
  · exact check_eq_ok.1 hcheck error hmisfits

/-- An operation that fails offends, and its offence is reported. -/
theorem step_reports (h : Reflects fold before) {error : PipelineError}
    (hstep : step schema before.length fold operation = .error error) :
    operation.ReportedBy schema before error := by
  rw [step] at hstep
  cases hrefusal : fold.refusal? operation with
  | some refusal =>
    rw [hrefusal] at hstep
    cases hstep
    exact .inl ⟨refusal, appliesTo_of_refusal? h hrefusal, rfl⟩
  | none =>
    rw [hrefusal] at hstep
    exact .inr ⟨(refusal?_eq_none_iff h).1 hrefusal, check_eq_error.1 (map_eq_error.1 hstep)⟩

/-! ## All operations -/

theorem offendsAt_zero {rest : List Operation} :
    OffendsAt schema before (operation :: rest) 0 ↔ operation.Offends schema before := by
  simp [OffendsAt]

theorem offendsAt_succ {rest : List Operation} {index : Nat} :
    OffendsAt schema before (operation :: rest) (index + 1)
      ↔ OffendsAt schema (before ++ [operation]) rest index := by
  simp [OffendsAt]

/-- **A run that succeeds has met no offence.** -/
theorem run_reflects {operations : List Operation} {index : Nat} {final : Fold}
    (h : Reflects fold before) (hrun : run schema index fold operations = .ok final) :
    (∀ index, ¬ OffendsAt schema before operations index)
      ∧ Reflects final (before ++ operations) := by
  induction operations generalizing before fold index with
  | nil =>
    cases hrun
    rw [List.append_nil]
    exact ⟨fun _ ⟨_, hnone, _⟩ => (nomatch hnone), h⟩
  | cons operation rest ih =>
    rw [run] at hrun
    obtain ⟨next, hstep, hrest⟩ := bind_eq_ok.1 hrun
    obtain ⟨hinoffensive, hnext⟩ := step_reflects h hstep
    obtain ⟨hothers, hfinal⟩ := ih hnext hrest
    refine ⟨fun index => ?_, by rwa [List.append_assoc] at hfinal⟩
    cases index with
    | zero => rwa [offendsAt_zero]
    | succ index =>
      rw [offendsAt_succ]
      exact hothers index

/-- **A run that fails ends at the first offence**, and reports it. -/
theorem run_reports {operations : List Operation} {error : PipelineError}
    (h : Reflects fold before) (hrun : run schema before.length fold operations = .error error) :
    ∃ index operation, operations[index]? = some operation
      ∧ (∀ earlier < index, ¬ OffendsAt schema before operations earlier)
      ∧ operation.ReportedBy schema (before ++ operations.take index) error := by
  induction operations generalizing before fold with
  | nil => cases hrun
  | cons operation rest ih =>
    rw [run] at hrun
    rcases bind_eq_error.1 hrun with hstep | ⟨next, hstep, hrest⟩
    · refine ⟨0, operation, rfl, fun _ hlt => absurd hlt (Nat.not_lt_zero _), ?_⟩
      rw [List.take_zero, List.append_nil]
      exact step_reports h hstep
    · obtain ⟨hinoffensive, hnext⟩ := step_reflects h hstep
      have hlength : before.length + 1 = (before ++ [operation]).length := by simp
      rw [hlength] at hrest
      obtain ⟨index, other, hother, hearlier, hreported⟩ := ih hnext hrest
      refine ⟨index + 1, other, hother, fun earlier hlt => ?_, ?_⟩
      · cases earlier with
        | zero => rwa [offendsAt_zero]
        | succ earlier =>
          rw [offendsAt_succ]
          exact hearlier earlier (Nat.lt_of_succ_lt_succ hlt)
      · rwa [List.append_assoc] at hreported

end Fold

namespace Pipeline

open Operation (skipped OffendsAt)

theorem describe_eq_ok {pipeline : Pipeline} {schema : Schema} {description : Description} :
    pipeline.describe schema = .ok description
      ↔ ∃ fold, Fold.run schema 0 {} pipeline.operations = .ok fold
        ∧ description = ⟨{ fold.query with
            inlineCount := if (fold.terminal.getD .rows).expectsCount then .allPages else .none },
          pipeline.source, fold.terminal.getD .rows⟩ := by
  rw [describe, bind_eq_ok]
  simp only [Except.ok.injEq, eq_comm]

theorem describe_eq_error {pipeline : Pipeline} {schema : Schema} {error : PipelineError} :
    pipeline.describe schema = .error error
      ↔ Fold.run schema 0 {} pipeline.operations = .error error := by
  rw [describe, bind_eq_error]
  exact or_iff_left fun ⟨_, _, hnever⟩ => nomatch hnever

/-- **A pipeline is refused exactly at its first offence**, with the error that reports it.  If there
is none, its query skips what its operations skip together, sorts by each property once and counts
exactly if the pipeline does. -/
theorem describe_rejects_first_offence (pipeline : Pipeline) (schema : Schema) :
    ((∃ description, pipeline.describe schema = .ok description)
        ↔ ∀ index, ¬ OffendsAt schema [] pipeline.operations index)
      ∧ (∀ index operation, pipeline.operations[index]? = some operation →
        operation.Offends schema (pipeline.operations.take index) →
        (∀ earlier < index, ¬ OffendsAt schema [] pipeline.operations earlier) →
        ∃ error, pipeline.describe schema = .error error
          ∧ operation.ReportedBy schema (pipeline.operations.take index) error)
      ∧ ∀ description, pipeline.describe schema = .ok description →
        (description.query.skip = none ↔ ∀ count, .skip count ∉ pipeline.operations)
          ∧ (∀ skip ∈ description.query.skip, skip.toNat = skipped pipeline.operations)
          ∧ (description.query.orderBy.map SortKey.property).Nodup
          ∧ (description.query.inlineCount = .allPages ↔ .count ∈ pipeline.operations) := by
  have hstart : Fold.Reflects {} [] := Fold.reflects_nil
  refine ⟨⟨?_, fun hnone => ?_⟩, fun index operation hoperation hoffends hearlier => ?_, ?_⟩
  · rintro ⟨description, hdescription⟩
    obtain ⟨fold, hrun, -⟩ := describe_eq_ok.1 hdescription
    exact (Fold.run_reflects hstart hrun).1
  · cases hdescribe : pipeline.describe schema with
    | ok description => exact ⟨description, rfl⟩
    | error error =>
      obtain ⟨index, operation, hoperation, -, hreported⟩ :=
        Fold.run_reports hstart (describe_eq_error.1 hdescribe)
      exact absurd ⟨operation, hoperation, Fold.offends_of_reportedBy hreported⟩ (hnone index)
  · have hhere : OffendsAt schema [] pipeline.operations index :=
      ⟨operation, hoperation, hoffends⟩
    cases hdescribe : pipeline.describe schema with
    | ok description =>
      obtain ⟨fold, hrun, -⟩ := describe_eq_ok.1 hdescribe
      exact absurd hhere ((Fold.run_reflects hstart hrun).1 index)
    | error error =>
      obtain ⟨first, other, hother, hinoffensive, hreported⟩ :=
        Fold.run_reports hstart (describe_eq_error.1 hdescribe)
      have hfirst : OffendsAt schema [] pipeline.operations first :=
        ⟨other, hother, Fold.offends_of_reportedBy hreported⟩
      -- both are the first offence
      obtain rfl : first = index := by
        rcases Nat.lt_trichotomy first index with hlt | heq | hgt
        · exact absurd hfirst (hearlier first hlt)
        · exact heq
        · exact absurd hhere (hinoffensive index hgt)
      rw [hoperation] at hother
      obtain rfl := Option.some.inj hother
      exact ⟨error, rfl, hreported⟩
  · intro description hdescription
    obtain ⟨fold, hrun, rfl⟩ := describe_eq_ok.1 hdescription
    obtain ⟨-, hreflects⟩ := Fold.run_reflects hstart hrun
    rw [List.nil_append] at hreflects
    refine ⟨hreflects.unskipped, fun skip hskip => ?_, Fold.nodup_run hrun List.nodup_nil, ?_⟩
    · rw [← hreflects.skip, show fold.query.skip = some skip from hskip, Option.getD_some]
    · rw [← hreflects.counts]
      rcases hterminal : fold.terminal with _ | terminal
      · simp [Projector.expectsCount]
      · cases terminal <;> simp [Projector.expectsCount]

/-- The rule for a pipeline with three offences, of which the first is the third operation. -/
theorem describe_rejects_first_offence_of_three :
    let schema : Schema := ⟨"Note", .ofList [("A", { type := .integer })]⟩
    let pipeline : Pipeline := ⟨.inMemory, [.orderBy ⟨"A", .desc⟩, .skip 3,
      .thenBy ⟨"B", .asc⟩, .reverse, .skip 18446744073709551615, .toList]⟩
    ∃ refusal, pipeline.describe schema = .error (.unsupported 2 "thenBy" refusal)
      ∧ refusal.AppliesTo [.orderBy ⟨"A", .desc⟩, .skip 3] (.thenBy ⟨"B", .asc⟩) := by
  intro schema pipeline
  have hlate : Refusal.paged.AppliesTo [.orderBy ⟨"A", .desc⟩, .skip 3] (.thenBy ⟨"B", .asc⟩) :=
    ⟨rfl, .skip 3, by simp, rfl⟩
  -- the first two operations are those of a pipeline that is accepted
  have hrun : ∃ fold, Fold.run schema 0 {} [.orderBy ⟨"A", .desc⟩, .skip 3] = .ok fold := ⟨_, rfl⟩
  obtain ⟨fold, hrun⟩ := hrun
  obtain ⟨hallowed, -⟩ := Fold.run_reflects Fold.reflects_nil hrun
  have hearlier : ∀ earlier < 2, ¬ OffendsAt schema [] pipeline.operations earlier := by
    rintro earlier hlt hoffends
    refine hallowed earlier ?_
    obtain rfl | rfl : earlier = 0 ∨ earlier = 1 := by omega
    · exact hoffends
    · exact hoffends
  obtain ⟨-, hfirst, -⟩ := describe_rejects_first_offence pipeline schema
  obtain ⟨error, herror, ⟨refusal, happlies, rfl⟩ | ⟨hnone, -⟩⟩ :=
    hfirst 2 _ rfl (.inl ⟨_, hlate⟩) hearlier
  · exact ⟨refusal, herror, happlies⟩
  · exact absurd hlate (hnone _)

end Pipeline

end ODataQuery
