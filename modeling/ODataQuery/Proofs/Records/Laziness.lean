import ODataQuery.Proofs.Records.Interleaving
import ODataQuery.Proofs.Records.Reads

/-!
# Enumerations read no more than they need

Without an ordering, pulls test records from the front until they have found what they return, so
together they have read the shortest part of the source that holds it.  With one, the first pull
reads everything, and no later pull reads anything again.

* `upToMatch`, `isUpToMatch`: the records up to the one that matches at some count.
* `Enumeration.logged`: what a number of pulls read.
* `Enumeration.logged_of_untested`, `Enumeration.logged_of_unsorted`: what that is, by what is left
  of the records.
* `Query.FilterReads`, `Query.ReadsAfter`: what testing a record reads, and what pulls have read
  together, said of the query.
* `readsOf`, `Application.readsOf_eq_logged`: whatever else is pulled in between, the pulls of an
  enumeration read what they read alone.
* `Query.enumerations_read_lazily`: nothing is read before the first pull, and then as
  `Query.ReadsAfter` says.
-/

set_option autoImplicit false

namespace ODataQuery

variable {ρ : Type}

/-! ## The part of a list up to a match -/

section UpToMatch

variable {α : Type} {p : α → Bool}

/-- The elements up to the one that matches at a count. -/
def upToMatch (p : α → Bool) : Nat → List α → List α
  | 0, _ => []
  | _ + 1, [] => []
  | count + 1, a :: rest => a :: upToMatch p (if p a then count else count + 1) rest

@[simp] theorem upToMatch_zero (p : α → Bool) (elements : List α) : upToMatch p 0 elements = [] := by
  cases elements <;> rfl

@[simp] theorem upToMatch_nil (p : α → Bool) (count : Nat) : upToMatch p count [] = [] := by
  cases count <;> rfl

/-- The shortest part at the start of a list that holds a number of matches, or the whole list if it
holds fewer. -/
structure IsUpToMatch (p : α → Bool) (count : Nat) (elements part : List α) : Prop where
  isPrefix : part <+: elements
  holds : part = elements ∨ count ≤ part.countP p
  shortest : ∀ other, other <+: elements → count ≤ other.countP p → part <+: other

theorem isUpToMatch (p : α → Bool) (count : Nat) (elements : List α) :
    IsUpToMatch p count elements (upToMatch p count elements) := by
  induction elements generalizing count with
  | nil => cases count <;> exact ⟨List.nil_prefix, .inl rfl, fun _ _ _ => List.nil_prefix⟩
  | cons a rest ih =>
    cases count with
    | zero => exact ⟨List.nil_prefix, .inr (Nat.zero_le _), fun _ _ _ => List.nil_prefix⟩
    | succ count =>
      have hrest := ih (if p a then count else count + 1)
      rw [upToMatch]
      refine ⟨(List.prefix_cons_inj a).2 hrest.isPrefix, ?_, fun other hother hcount => ?_⟩
      · rcases hrest.holds with hall | hholds
        · exact .inl (congrArg _ hall)
        · refine .inr ?_
          rw [List.countP_cons]
          split at hholds <;> simp_all
      · cases other with
        | nil => exact absurd hcount (by simp)
        | cons b others =>
          obtain ⟨rfl, hothers⟩ := List.cons_prefix_cons.1 hother
          refine (List.prefix_cons_inj b).2 (hrest.shortest others hothers ?_)
          rw [List.countP_cons] at hcount
          split <;> simp_all

/-- Going on to further matches goes on from where the first ones were found. -/
theorem upToMatch_add (p : α → Bool) (count more : Nat) (elements : List α) :
    upToMatch p (count + more) elements
      = upToMatch p count elements
        ++ upToMatch p more (elements.drop (upToMatch p count elements).length) := by
  induction elements generalizing count with
  | nil => simp
  | cons a rest ih =>
    cases count with
    | zero => simp
    | succ count =>
      have hcount : (if p a then count + more else count + more + 1)
          = (if p a then count else count + 1) + more := by
        split <;> omega
      rw [Nat.succ_add_eq_add_succ, Nat.add_succ, upToMatch, upToMatch, hcount, ih]
      rfl

/-- Where there is no match, the part goes to the end. -/
theorem upToMatch_eq_self {elements : List α} (h : elements.filter p = []) (count : Nat) :
    upToMatch p (count + 1) elements = elements := by
  induction elements with
  | nil => rfl
  | cons a rest ih =>
    rw [List.filter_eq_nil_iff] at h
    have ha : ¬ p a = true := h a List.mem_cons_self
    rw [upToMatch, if_neg ha, ih (List.filter_eq_nil_iff.2 fun b hb => h b (.tail a hb))]

end UpToMatch

/-! ## What taking a match reads -/

namespace Selection

/-- What testing a record reads. -/
def filterReads (selection : Selection ρ) (record : ρ) : List (Access ρ) :=
  (selection.test record).log

/-- Nothing is read without a filter, and with one, what its evaluation reads. -/
theorem filterReads_eq (selection : Selection ρ) (record : ρ) :
    selection.filterReads record = match selection.filter with
      | none => []
      | some filter => (filter.reads record).map fun property => ⟨record, property⟩ := by
  rw [filterReads, test]
  cases selection.filter with
  | none => rfl
  | some filter => exact congrArg (List.map _) (filter.log_test record)

/-- What sorting reads of a record. -/
def keyReads (selection : Selection ρ) (record : ρ) : List (Access ρ) :=
  (selection.readKeys record).log

/-- Each key is read once. -/
theorem keyReads_eq (selection : Selection ρ) (record : ρ) :
    selection.keyReads record = selection.keys.map fun key => ⟨record, key.name⟩ := by
  rw [keyReads, readKeys, Logged.log_mapM, List.map_eq_flatMap]
  rfl

theorem findMatch_reads (selection : Selection ρ) (records : List ρ) :
    (selection.findMatch records).log
        = (upToMatch selection.accepts 1 records).flatMap selection.filterReads
      ∧ (selection.findMatch records).value.2
        = records.drop (upToMatch selection.accepts 1 records).length := by
  induction records with
  | nil => exact ⟨rfl, rfl⟩
  | cons record rest ih =>
    rw [findMatch, Logged.bind_eq, value_test, upToMatch]
    by_cases haccepts : selection.accepts record = true
    · simp [haccepts, filterReads]
    · simp [haccepts, ih, filterReads]

/-- **Taking a match that is skipped to reads the records up to it**, and leaves those behind it. -/
theorem advancePast_untested (selection : Selection ρ) (count : Nat) (records : List ρ) :
    (selection.advancePast count (.untested records)).log
        = (upToMatch selection.accepts (count + 1) records).flatMap selection.filterReads
      ∧ (selection.advancePast count (.untested records)).value.2
        = .untested (records.drop (upToMatch selection.accepts (count + 1) records).length) := by
  obtain ⟨hreads, hrest⟩ := selection.findMatch_reads records
  have hadvance := selection.advance_untested records
  induction count generalizing records with
  | zero =>
    rw [advancePast, hadvance]
    exact ⟨hreads, congrArg Remaining.untested hrest⟩
  | succ count ih =>
    rcases hfind : (selection.findMatch records).value with ⟨_ | found, rest⟩ <;>
      rw [hfind] at hrest hadvance
    · -- there is no match, so all records have been read
      have hnone : records.filter selection.accepts = [] := by
        rw [← List.head?_eq_none_iff, ← (selection.findMatch_eq records).1, hfind]
      rw [advancePast_of_none (congrArg Logged.value hadvance), hadvance, upToMatch_eq_self hnone]
      rw [upToMatch_eq_self hnone] at hreads hrest
      exact ⟨hreads, congrArg Remaining.untested hrest⟩
    · obtain ⟨hrestReads, hrestRest⟩ := selection.findMatch_reads rest
      obtain ⟨hmoreReads, hmoreRest⟩ :=
        ih rest hrestReads hrestRest (selection.advance_untested rest)
      have hcount : count + 1 + 1 = 1 + (count + 1) := Nat.add_comm _ 1
      rw [advancePast_of_some (congrArg Logged.value hadvance), hadvance, hcount, upToMatch_add,
        List.flatMap_append, List.length_append, ← List.drop_drop, ← hrest, ← hmoreReads,
        ← hmoreRest, ← hreads]
      exact ⟨rfl, rfl⟩

/-- Matches that are sorted are taken without reading. -/
theorem advancePast_sorted (selection : Selection ρ) (count : Nat) (records : List ρ) :
    (selection.advancePast count (.sorted records)).log = []
      ∧ ∃ rest, (selection.advancePast count (.sorted records)).value.2 = .sorted rest := by
  induction count generalizing records with
  | zero => exact ⟨rfl, _, rfl⟩
  | succ count ih =>
    cases records with
    | nil => exact ⟨rfl, _, rfl⟩
    | cons record rest => exact ih rest

/-- What sorting reads: the filter of all records, and then the keys of all matches. -/
def sortReads (selection : Selection ρ) (records : List ρ) : List (Access ρ) :=
  records.flatMap selection.filterReads
    ++ (records.filter selection.accepts).flatMap selection.keyReads

theorem log_putInOrder (selection : Selection ρ) (records : List ρ) :
    (selection.putInOrder records).log = records.flatMap selection.keyReads := by
  simp only [putInOrder, Logged.log_bind, Logged.log_mapM, Logged.log_pure, List.append_nil]
  rfl

/-- A match that is to be sorted is taken after everything is read. -/
theorem log_advance_unsorted (selection : Selection ρ) (records : List ρ) :
    (selection.advance (.unsorted records)).log = selection.sortReads records := by
  rw [advance_unsorted, log_putInOrder]
  rfl

/-- Whatever is skipped, sorting reads everything, and then nothing is left to read. -/
theorem advancePast_unsorted (selection : Selection ρ) (count : Nat) (records : List ρ) :
    (selection.advancePast count (.unsorted records)).log = selection.sortReads records
      ∧ ∃ rest, (selection.advancePast count (.unsorted records)).value.2 = .sorted rest := by
  have hadvance := congrArg Logged.value (selection.advance_unsorted records)
  cases count with
  | zero => exact ⟨selection.log_advance_unsorted records, _, congrArg Prod.snd hadvance⟩
  | succ count =>
    rcases hsort : selection.sort (records.filter selection.accepts) with _ | ⟨first, others⟩ <;>
      rw [hsort] at hadvance
    · rw [advancePast_of_none hadvance]
      exact ⟨selection.log_advance_unsorted records, _, rfl⟩
    · obtain ⟨hreads, left, hleft⟩ := selection.advancePast_sorted count others
      rw [advancePast_of_some hadvance]
      refine ⟨?_, left, hleft⟩
      show (selection.advance (.unsorted records)).log
        ++ (selection.advancePast count (.sorted others)).log = _
      rw [hreads, List.append_nil, log_advance_unsorted]

end Selection

/-! ## What pulls read -/

namespace Enumeration

/-- What a number of pulls read together. -/
def logged (enumeration : Enumeration ρ) : Nat → List (Access ρ)
  | 0 => []
  | pulls + 1 => enumeration.next.log ++ enumeration.next.value.2.logged pulls

theorem logged_succ (enumeration : Enumeration ρ) (pulls : Nat) :
    enumeration.logged (pulls + 1)
      = enumeration.logged pulls ++ (enumeration.after pulls).next.log := by
  induction pulls generalizing enumeration with
  | zero => rw [logged, logged, logged, after, List.append_nil, List.nil_append]
  | succ pulls ih => rw [logged, ih, logged, after, List.append_assoc]

/-- How many records a number of pulls ask for, where no more than a limit are returned. -/
def wanted (limit : Option Nat) (pulls : Nat) : Nat :=
  match limit with
  | none => pulls
  | some limit => min pulls limit

theorem wanted_zero (limit : Option Nat) : wanted limit 0 = 0 := by
  cases limit <;> simp [wanted]

/-- A limit of zero asks for nothing; otherwise the first pull asks for one record, and the others
for what is left of the limit. -/
theorem wanted_succ {limit : Option Nat} (h : limit ≠ some 0) (pulls : Nat) :
    wanted limit (pulls + 1) = 1 + wanted (limit.map (· - 1)) pulls := by
  cases limit with
  | none => exact Nat.add_comm pulls 1
  | some limit =>
    have hpos : limit ≠ 0 := fun hzero => h (congrArg some hzero)
    show min (pulls + 1) limit = 1 + min pulls (limit - 1)
    omega

/-- Where nothing may be returned, nothing is read. -/
theorem logged_of_limit_zero {enumeration : Enumeration ρ} (h : enumeration.limit = some 0)
    (pulls : Nat) : enumeration.logged pulls = [] := by
  induction pulls with
  | zero => rfl
  | succ pulls ih =>
    rw [logged, next_of_limit_zero h, ih, List.append_nil]

theorem logged_of_sorted {enumeration : Enumeration ρ} {records : List ρ}
    (h : enumeration.remaining = .sorted records) (pulls : Nat) :
    enumeration.logged pulls = [] := by
  induction pulls generalizing enumeration records with
  | zero => rfl
  | succ pulls ih =>
    by_cases hlimit : enumeration.limit = some 0
    · exact logged_of_limit_zero hlimit _
    · obtain ⟨hreads, rest, hrest⟩ :=
        enumeration.selection.advancePast_sorted enumeration.toSkip records
      rw [logged, next_eq hlimit, h, hreads, hrest, List.nil_append]
      exact ih rfl

/-- **Without sorting, pulls read the records up to the last one that they ask for.** -/
theorem logged_of_untested {enumeration : Enumeration ρ} {records : List ρ}
    (h : enumeration.remaining = .untested records) (pulls : Nat) :
    enumeration.logged pulls
      = if wanted enumeration.limit pulls = 0 then []
        else (upToMatch enumeration.selection.accepts
          (enumeration.toSkip + wanted enumeration.limit pulls) records).flatMap
            enumeration.selection.filterReads := by
  induction pulls generalizing enumeration records with
  | zero => rw [wanted_zero, if_pos rfl, logged]
  | succ pulls ih =>
    by_cases hlimit : enumeration.limit = some 0
    · rw [logged_of_limit_zero hlimit, hlimit, if_pos (by simp [wanted])]
    · obtain ⟨hreads, hrest⟩ :=
        enumeration.selection.advancePast_untested enumeration.toSkip records
      have hpositive : 1 + wanted (enumeration.limit.map (· - 1)) pulls ≠ 0 := by omega
      rw [wanted_succ hlimit, if_neg hpositive, ← Nat.add_assoc, upToMatch_add,
        List.flatMap_append, ← hreads, logged, next_eq hlimit, h, hrest, ih rfl]
      refine congrArg _ ?_
      split
      · -- no further record is asked for
        rename_i hzero
        rw [hzero, upToMatch_zero, List.flatMap_nil]
      · rw [Nat.zero_add]

/-- **With sorting, the first pull that asks for a record reads everything.** -/
theorem logged_of_unsorted {enumeration : Enumeration ρ} {records : List ρ}
    (h : enumeration.remaining = .unsorted records) (pulls : Nat) :
    enumeration.logged pulls
      = if wanted enumeration.limit pulls = 0 then []
        else enumeration.selection.sortReads records := by
  cases pulls with
  | zero => rw [wanted_zero, if_pos rfl, logged]
  | succ pulls =>
    by_cases hlimit : enumeration.limit = some 0
    · rw [logged_of_limit_zero hlimit, hlimit, if_pos (by simp [wanted])]
    · obtain ⟨hreads, rest, hrest⟩ :=
        enumeration.selection.advancePast_unsorted enumeration.toSkip records
      have hpositive : 1 + wanted (enumeration.limit.map (· - 1)) pulls ≠ 0 := by omega
      rw [wanted_succ hlimit, if_neg hpositive, logged, next_eq hlimit, h, hreads, hrest,
        logged_of_sorted rfl, List.append_nil]

end Enumeration

/-! ## What a query reads -/

namespace Query

variable {binding : Binding ρ} {query : Query}

/-- What testing a record against the filter of a query reads: what the evaluation of the filter
reads, and nothing without a filter. -/
def FilterReads (binding : Binding ρ) (query : Query) (record : ρ) (reads : List (Access ρ)) :
    Prop :=
  match query.filter with
  | none => reads = []
  | some filter => ∃ value names, filter.Evaluates binding record value names
    ∧ reads = names.map fun name => ⟨record, name⟩

/-- How many records a number of pulls ask for. -/
def wanted (query : Query) (pulls : Nat) : Nat :=
  Enumeration.wanted (query.top.map UInt64.toNat) pulls

/-- What a number of pulls of an enumeration of a query have read, given what testing a record
reads. -/
inductive ReadsAfter (binding : Binding ρ) (query : Query) (records : List ρ)
    (filterReads : ρ → List (Access ρ)) (pulls : Nat) : List (Access ρ) → Prop where
  /-- Pulls that ask for no record read nothing. -/
  | nothing (hwanted : query.wanted pulls = 0) :
    ReadsAfter binding query records filterReads pulls []
  /-- Without an ordering, records are tested up to the last one that is asked for. -/
  | upToLast {part : List ρ} (hwanted : query.wanted pulls ≠ 0) (hunordered : query.orderBy = [])
    (hpart : IsUpToMatch (binding.accepts query.filter)
      ((query.skip.getD 0).toNat + query.wanted pulls) records part) :
    ReadsAfter binding query records filterReads pulls (part.flatMap filterReads)
  /-- With an ordering, all records are tested, and then every key of every match is read. -/
  | everything (hwanted : query.wanted pulls ≠ 0) (hordered : query.orderBy ≠ []) :
    ReadsAfter binding query records filterReads pulls
      (records.flatMap filterReads
        ++ (records.filter (binding.accepts query.filter)).flatMap fun record =>
          query.orderBy.map fun key => ⟨record, key.property⟩)

/-- The query whose result a sequence is. -/
def ofSequence (query : Query) : Sequence → Query
  | .result => query
  | .countSource => query.unpaged

end Query

namespace Selection

variable {binding : Binding ρ} {query : Query} {selection : Selection ρ}

/-- Testing a record reads what the evaluation of the filter reads. -/
theorem filterReads_iff (h : ofQuery binding query = .ok selection) (record : ρ)
    (reads : List (Access ρ)) :
    query.FilterReads binding record reads ↔ reads = selection.filterReads record := by
  obtain ⟨hfilter, -, -, -⟩ := ofQuery_eq_ok.1 h
  rw [Query.FilterReads, filterReads_eq]
  cases hsome : query.filter with
  | none =>
    rw [hsome, resolveFilter] at hfilter
    rw [← Except.ok.inj hfilter]
  | some filter =>
    rw [hsome, resolveFilter, map_eq_ok] at hfilter
    obtain ⟨node, hnode, hselection⟩ := hfilter
    simp only [← hselection, Node.evaluates_iff hnode]
    constructor
    · rintro ⟨value, names, ⟨-, rfl⟩, hreads⟩
      exact hreads
    · intro hreads
      exact ⟨_, _, ⟨rfl, rfl⟩, hreads⟩

theorem map_name_of_resolveKeys {keys : List SortKey} {resolved : List (ResolvedKey ρ)}
    (h : resolveKeys binding keys = .ok resolved) :
    resolved.map ResolvedKey.name = keys.map SortKey.property := by
  induction keys generalizing resolved with
  | nil => rw [resolveKeys] at h; cases h; rfl
  | cons key rest ih =>
    obtain ⟨read, resolvedRest, -, hrest, rfl⟩ := resolveKeys_cons_eq_ok.1 h
    rw [List.map_cons, List.map_cons, ih hrest]

theorem keyReads_of_ofQuery (h : ofQuery binding query = .ok selection) (record : ρ) :
    selection.keyReads record = query.orderBy.map fun key => ⟨record, key.property⟩ := by
  obtain ⟨-, hkeys, -, -⟩ := ofQuery_eq_ok.1 h
  have hnames := congrArg (List.map fun name => (⟨record, name⟩ : Access ρ))
    (map_name_of_resolveKeys hkeys)
  rw [List.map_map, List.map_map] at hnames
  rw [keyReads_eq]
  exact hnames

/-- **The pulls of an enumeration read what its query says.** -/
theorem readsAfter_logged (h : ofQuery binding query = .ok selection) (records : List ρ)
    (pulls : Nat) : query.ReadsAfter binding records selection.filterReads pulls
      ((selection.enumerate records).logged pulls) := by
  obtain ⟨-, -, hskip, htop⟩ := ofQuery_eq_ok.1 h
  have hlimit : Enumeration.wanted (selection.enumerate records).limit pulls = query.wanted pulls :=
    congrArg (Enumeration.wanted · pulls) htop
  by_cases hwanted : query.wanted pulls = 0
  · have hnothing : (selection.enumerate records).logged pulls = [] := by
      by_cases hempty : selection.keys.isEmpty = true
      · rw [Enumeration.logged_of_untested (if_pos hempty), hlimit, if_pos hwanted]
      · rw [Enumeration.logged_of_unsorted (if_neg hempty), hlimit, if_pos hwanted]
    rw [hnothing]
    exact .nothing hwanted
  · by_cases hempty : selection.keys.isEmpty = true
    · rw [Enumeration.logged_of_untested (if_pos hempty), hlimit, if_neg hwanted]
      refine .upToLast hwanted ((isEmpty_keys_of_ofQuery h).1 hempty) ?_
      rw [← accepts_of_ofQuery h, ← hskip]
      exact isUpToMatch _ _ _
    · rw [Enumeration.logged_of_unsorted (if_neg hempty), hlimit, if_neg hwanted]
      have hordered : query.orderBy ≠ [] :=
        fun hunordered => hempty ((isEmpty_keys_of_ofQuery h).2 hunordered)
      have hsortReads : selection.sortReads records = records.flatMap selection.filterReads
          ++ (records.filter (binding.accepts query.filter)).flatMap fun record =>
            query.orderBy.map fun key => ⟨record, key.property⟩ := by
        rw [sortReads, accepts_of_ofQuery h, funext (keyReads_of_ofQuery h)]
      show query.ReadsAfter binding records selection.filterReads pulls
        (selection.sortReads records)
      rw [hsortReads]
      exact .everything hwanted hordered

end Selection

/-! ## Reads in turns -/

/-- What the first steps read for their pulls of the enumeration with a handle. -/
def readsOf (handle count : Nat) (steps : List ReaderStep) (answers : List (ReaderAnswer ρ)) :
    List (Access ρ) :=
  ((steps.zip answers).take count).flatMap fun (step, answer) =>
    if step = .pull handle then answer.reads else []

theorem readsOf_succ (handle count : Nat) {steps : List ReaderStep}
    {answers : List (ReaderAnswer ρ)} {step : ReaderStep} {answer : ReaderAnswer ρ}
    (hstep : steps[count]? = some step) (hanswer : answers[count]? = some answer) :
    readsOf handle (count + 1) steps answers
      = readsOf handle count steps answers ++ if step = .pull handle then answer.reads else [] := by
  have hboth : (steps.zip answers)[count]? = some (step, answer) :=
    List.getElem?_zip_eq_some.2 ⟨hstep, hanswer⟩
  rw [readsOf, readsOf, List.take_add_one, hboth, List.flatMap_append, Option.toList_some,
    List.flatMap_singleton]

/-- After the last step, nothing is read. -/
theorem readsOf_of_length_le (handle : Nat) {count : Nat} {steps : List ReaderStep}
    (h : steps.length ≤ count) (answers : List (ReaderAnswer ρ)) :
    readsOf handle (count + 1) steps answers = readsOf handle count steps answers := by
  have hlength : (steps.zip answers).length ≤ count := by
    rw [List.length_zip]
    omega
  rw [readsOf, readsOf, List.take_of_length_le hlength,
    List.take_of_length_le (Nat.le_succ_of_le hlength)]

/-- A sequence that is started stays at its handle. -/
theorem ReaderStep.startedBy_of_take {steps : List ReaderStep} {count handle : Nat}
    {sequence : Sequence} (h : (startedBy (steps.take count))[handle]? = some sequence) :
    (startedBy steps)[handle]? = some sequence := by
  have hsplit : startedBy steps = startedBy (steps.take count) ++ startedBy (steps.drop count) := by
    rw [← startedBy_append, List.take_append_drop]
  rw [hsplit, List.getElem?_append_left (List.getElem?_eq_some_iff.1 h).1, h]

/-- **The pulls of an enumeration read what they read alone**, whatever is pulled in between. -/
theorem Application.readsOf_eq_logged {application : Application ρ} {records : List ρ}
    {steps : List ReaderStep} {answers : List (ReaderAnswer ρ)}
    (hanswers : ∀ index step, steps[index]? = some step → ∃ answer, answers[index]? = some answer
      ∧ Answers application records (steps.take index) step answer)
    {handle : Nat} {sequence : Sequence}
    (hsequence : (ReaderStep.startedBy steps)[handle]? = some sequence) (count : Nat) :
    readsOf handle count steps answers
      = ((application.selection sequence).enumerate records).logged
          (ReaderStep.pullsOf handle (steps.take count)) := by
  induction count with
  | zero => rfl
  | succ count ih =>
    cases hstep : steps[count]? with
    | none =>
      -- there are no more steps
      have hlength : steps.length ≤ count := List.getElem?_eq_none_iff.1 hstep
      rw [readsOf_of_length_le handle hlength, ih, List.take_of_length_le hlength,
        List.take_of_length_le (Nat.le_succ_of_le hlength)]
    | some step =>
      obtain ⟨answer, hanswer, hanswered⟩ := hanswers count step hstep
      have htake : steps.take (count + 1) = steps.take count ++ [step] := by
        rw [List.take_add_one, hstep, Option.toList_some]
      rw [readsOf_succ handle count hstep hanswer, ih, htake,
        ReaderStep.pullsOf_append, ReaderStep.pullsOf_singleton]
      split
      · rename_i hpull
        subst hpull
        cases hanswered with
        | @pull _ other hother enumeration henumeration =>
          cases hsequence.symm.trans (ReaderStep.startedBy_of_take hother)
          rw [Enumeration.logged_succ, ← henumeration]
      · rw [Nat.add_zero, List.append_nil]

namespace Query

variable {binding : Binding ρ} {query : Query} {application : Application ρ}

/-- Each sequence is selected by its query. -/
theorem ofQuery_selection (happly : query.apply binding = .ok application) (sequence : Sequence) :
    Selection.ofQuery binding (query.ofSequence sequence)
      = .ok (application.selection sequence) := by
  obtain ⟨hresult, hcountSource⟩ := apply_eq_ok.1 happly
  cases sequence with
  | result => exact hresult
  | countSource => exact hcountSource

/-- **Enumerations read lazily, and no record twice.**  The selections of a query are there before
any record is, and starting an enumeration of one reads nothing.  However enumerations of the two
sequences are started and pulled in turns, the pulls of each have read, at any time, what its own
query says of their number: nothing as long as they ask for no record; without an ordering, what
testing the records up to the last one asked for reads; with one, what testing all records reads,
and then the keys of every match.  Testing a record reads what evaluating the filter from left to
right reads. -/
theorem enumerations_read_lazily (happly : query.apply binding = .ok application)
    (records : List ρ) {steps : List ReaderStep} (hsteps : ReaderStep.Interleaves steps) :
    ∃ (filterReads : ρ → List (Access ρ)) (answers : List (ReaderAnswer ρ)),
      (∀ record reads, query.FilterReads binding record reads ↔ reads = filterReads record)
      ∧ application.read records steps = some answers
      ∧ (∀ (index : Nat) (sequence : Sequence), steps[index]? = some (.start sequence) →
        answers[index]?.map ReaderAnswer.reads = some [])
      ∧ ∀ handle sequence, (ReaderStep.startedBy steps)[handle]? = some sequence →
        ∀ count, (query.ofSequence sequence).ReadsAfter binding records filterReads
          (ReaderStep.pullsOf handle (steps.take count)) (readsOf handle count steps answers) := by
  obtain ⟨answers, hread, hanswers⟩ :=
    Application.answers_readFrom (Application.tracks_nil application records) hsteps
  have hresult := Selection.filterReads_iff (ofQuery_selection happly .result)
  refine ⟨(application.selection .result).filterReads, answers, hresult, hread,
    fun index sequence hstart => ?_, fun handle sequence hsequence count => ?_⟩
  · obtain ⟨answer, hanswer, hanswered⟩ := hanswers index _ hstart
    cases hanswered
    rw [hanswer]
    rfl
  · -- both sequences have the filter of the query, and so the same reads of it
    have hfilterReads : (application.selection .result).filterReads
        = (application.selection sequence).filterReads := by
      funext record
      refine (Selection.filterReads_iff (ofQuery_selection happly sequence) record _).1 ?_
      cases sequence <;> exact (hresult record _).2 rfl
    rw [hfilterReads, Application.readsOf_eq_logged hanswers hsequence]
    exact Selection.readsAfter_logged (ofQuery_selection happly sequence) records _

/-- The rule for a page without an ordering, whose third pull finds nothing any more, while all
matches are enumerated in between; the right operand of the filter is read only where the left one
does not decide. -/
theorem enumerations_read_lazily_of_exhausted_page :
    let binding : Binding (Int64 × Option String) := ⟨"Note", .ofList
      [("Id", ⟨{ type := .integer }, fun note => .int note.1⟩),
        ("Text", ⟨{ type := .string }, fun note => note.2.elim .null .string⟩)]⟩
    let query : Query := {
      filter := some (.binary
        (.binary (.property "Text") (.comparison .eq) (.literal (.string "a")))
        (.connective .or)
        (.binary (.property "Id") (.comparison .gt) (.literal (.int 3))))
      skip := some 1
      top := some 3 }
    let records : List (Int64 × Option String) :=
      [(1, some "b"), (2, some "a"), (3, none), (4, none), (5, some "a"), (1, some "c")]
    let steps : List ReaderStep :=
      [.start .result, .start .countSource, .pull 1, .pull 0, .pull 0, .pull 1, .pull 0]
    ∃ application filterReads answers, query.apply binding = .ok application
      ∧ (∀ record reads, query.FilterReads binding record reads ↔ reads = filterReads record)
      ∧ application.read records steps = some answers
      ∧ answers[1]?.map ReaderAnswer.reads = some []
      ∧ query.ReadsAfter binding records filterReads 2 (readsOf 0 6 steps answers)
      ∧ query.ReadsAfter binding records filterReads 3 (readsOf 0 7 steps answers) := by
  intro binding query records steps
  obtain ⟨application, happly⟩ : ∃ application, query.apply binding = .ok application := ⟨_, rfl⟩
  have hsteps : ReaderStep.Interleaves steps := by
    intro index handle hpull
    rcases index with _ | _ | _ | _ | _ | _ | _ | index <;> cases hpull <;> decide
  obtain ⟨filterReads, answers, hfilter, hread, hstart, hreads⟩ :=
    enumerations_read_lazily happly records hsteps
  have hresult := hreads 0 .result rfl
  exact ⟨application, filterReads, answers, happly, hfilter, hread, hstart 1 .countSource rfl,
    hresult 6, hresult 7⟩

end Query

end ODataQuery
