import ODataQuery.Proofs.Records.Enumeration
import ODataQuery.Proofs.Records.Selection
import ODataQuery.Records.Interleaving

/-!
# Enumerations do not influence one another

Whatever else a reader starts and pulls in between, the pulls of one enumeration return the records
of its sequence one after the other, and nothing from its end on.

* `ReaderStep.startedBy`, `ReaderStep.Interleaves`: the sequences that some steps have started, and
  steps that pull started enumerations only.
* `Application.Tracks`: where every enumeration stands is known from how often it has been pulled.
  `Application.tracks_step` keeps it so.
* `Application.Answers`, `Application.answers_readFrom`: so the answer of every step is known from
  the steps before it.
* `Query.pageAt`: the query for one of the pages of a given size.
* `Query.enumerations_return_stable_sort`: what is returned is the stable sort of the matches, or the
  page of it, and consecutive pages make up the whole.
-/

set_option autoImplicit false

namespace ODataQuery

variable {ρ : Type}

/-! ## Steps -/

namespace ReaderStep

/-- The sequence that a step starts to enumerate. -/
def started? : ReaderStep → Option Sequence
  | start sequence => some sequence
  | pull _ => none

/-- The sequences that steps have started to enumerate, each at its handle. -/
def startedBy (steps : List ReaderStep) : List Sequence :=
  steps.filterMap started?

/-- How often steps have pulled the enumeration with a handle. -/
def pullsOf (handle : Nat) (steps : List ReaderStep) : Nat :=
  steps.count (.pull handle)

/-- Every pull is one of an enumeration that an earlier step has started. -/
def Interleaves (steps : List ReaderStep) : Prop :=
  ∀ index handle, steps[index]? = some (.pull handle) →
    handle < (startedBy (steps.take index)).length

theorem startedBy_append (steps more : List ReaderStep) :
    startedBy (steps ++ more) = startedBy steps ++ startedBy more :=
  List.filterMap_append

theorem pullsOf_append (handle : Nat) (steps more : List ReaderStep) :
    pullsOf handle (steps ++ more) = pullsOf handle steps + pullsOf handle more :=
  List.count_append

theorem pullsOf_singleton (handle : Nat) (step : ReaderStep) :
    pullsOf handle [step] = if step = .pull handle then 1 else 0 := by
  rw [pullsOf, List.count_singleton]
  simp

end ReaderStep

/-! ## One step, and all of them -/

namespace Application

open ReaderStep

variable {application : Application ρ} {records : List ρ}

/-- The enumerations that steps have started stand where the pulls of each have brought them. -/
structure Tracks (application : Application ρ) (records : List ρ) (done : List ReaderStep)
    (started : List (Enumeration ρ)) : Prop where
  length : started.length = (startedBy done).length
  enumeration : ∀ handle enumeration sequence, started[handle]? = some enumeration →
    (startedBy done)[handle]? = some sequence →
    enumeration
      = ((application.selection sequence).enumerate records).after (pullsOf handle done)
  /-- What has not been started has not been pulled. -/
  fresh : ∀ handle, (startedBy done).length ≤ handle → pullsOf handle done = 0

theorem tracks_nil (application : Application ρ) (records : List ρ) :
    Tracks application records [] [] where
  length := rfl
  enumeration _ _ _ h := nomatch h
  fresh _ _ := rfl

theorem tracks_start {done : List ReaderStep} {started : List (Enumeration ρ)}
    (h : Tracks application records done started) (sequence : Sequence) :
    Tracks application records (done ++ [.start sequence])
      (started ++ [(application.selection sequence).enumerate records]) := by
  have hstarted : startedBy (done ++ [.start sequence]) = startedBy done ++ [sequence] :=
    startedBy_append _ _
  have hpulls : ∀ handle, pullsOf handle (done ++ [.start sequence]) = pullsOf handle done := by
    intro handle
    rw [pullsOf_append, pullsOf_singleton, if_neg (fun heq => nomatch heq), Nat.add_zero]
  refine ⟨?_, fun handle enumeration other henumeration hother => ?_, fun handle hhandle => ?_⟩
  · rw [hstarted, List.length_append, List.length_append, h.length]
    rfl
  · rw [hpulls]
    rw [hstarted] at hother
    rcases Nat.lt_trichotomy handle started.length with hlt | heq | hgt
    · rw [List.getElem?_append_left hlt] at henumeration
      rw [List.getElem?_append_left (h.length ▸ hlt)] at hother
      exact h.enumeration handle enumeration other henumeration hother
    · -- the new enumeration has not been pulled
      rw [heq, List.getElem?_concat_length] at henumeration
      rw [heq, h.length, List.getElem?_concat_length] at hother
      cases henumeration
      cases hother
      rw [h.fresh handle (by rw [heq, h.length]), Enumeration.after]
    · rw [List.getElem?_eq_none (by simp; omega)] at henumeration
      cases henumeration
  · rw [hpulls]
    rw [hstarted, List.length_append] at hhandle
    exact h.fresh handle (by omega)

theorem tracks_pull {done : List ReaderStep} {started : List (Enumeration ρ)}
    (h : Tracks application records done started) {handle : Nat} {enumeration : Enumeration ρ}
    (henumeration : started[handle]? = some enumeration) :
    Tracks application records (done ++ [.pull handle])
      (started.set handle enumeration.next.value.2) := by
  have hstarted : startedBy (done ++ [.pull handle]) = startedBy done := by
    rw [startedBy_append]
    exact List.append_nil _
  have hlt : handle < started.length := (List.getElem?_eq_some_iff.1 henumeration).1
  refine ⟨by rw [List.length_set, h.length, hstarted],
    fun other found sequence hfound hsequence => ?_, fun other hother => ?_⟩
  · rw [hstarted] at hsequence
    rw [pullsOf_append, pullsOf_singleton]
    by_cases hsame : handle = other
    · subst hsame
      rw [List.getElem?_set_self hlt] at hfound
      cases hfound
      rw [if_pos rfl, Enumeration.after_succ,
        h.enumeration handle enumeration sequence henumeration hsequence]
    · -- another enumeration stays where it is
      have hother : ReaderStep.pull handle ≠ .pull other := fun heq =>
        hsame (ReaderStep.pull.inj heq)
      rw [List.getElem?_set_ne hsame] at hfound
      rw [if_neg hother, Nat.add_zero]
      exact h.enumeration other found sequence hfound hsequence
  · rw [hstarted] at hother
    have hne : ReaderStep.pull handle ≠ .pull other := by
      intro heq
      cases heq
      rw [← h.length] at hother
      omega
    rw [pullsOf_append, pullsOf_singleton, if_neg hne, Nat.add_zero]
    exact h.fresh other hother

/-- What a step answers after some others: a start returns and reads nothing, and a pull does what
the number of earlier pulls of its enumeration says. -/
inductive Answers (application : Application ρ) (records : List ρ) (done : List ReaderStep) :
    ReaderStep → ReaderAnswer ρ → Prop where
  | start (sequence : Sequence) : Answers application records done (.start sequence) ⟨none, []⟩
  | pull {handle : Nat} {sequence : Sequence} (hsequence : (startedBy done)[handle]? = some sequence)
    {enumeration : Enumeration ρ} (henumeration : enumeration
      = ((application.selection sequence).enumerate records).after (pullsOf handle done)) :
    Answers application records done (.pull handle) ⟨enumeration.next.value.1, enumeration.next.log⟩

/-- A pull is a pull of the enumeration with the handle, and the others stay where they are. -/
theorem perform_pull {started : List (Enumeration ρ)} {handle : Nat} {enumeration : Enumeration ρ}
    (h : started[handle]? = some enumeration) :
    application.perform records started (.pull handle)
      = some ⟨(enumeration.next.value.1, started.set handle enumeration.next.value.2),
          enumeration.next.log⟩ := by
  rw [perform, h]
  exact congrArg some (Logged.bind_of_silent rfl)

/-- **One step answers and keeps track.** -/
theorem tracks_step {done : List ReaderStep} {started : List (Enumeration ρ)}
    (h : Tracks application records done started) (step : ReaderStep)
    (hstep : ∀ handle, step = .pull handle → handle < (startedBy done).length) :
    ∃ performed, application.perform records started step = some performed
      ∧ Tracks application records (done ++ [step]) performed.value.2
      ∧ Answers application records done step ⟨performed.value.1, performed.log⟩ := by
  cases step with
  | start sequence => exact ⟨_, rfl, tracks_start h sequence, .start sequence⟩
  | pull handle =>
    have hlt := hstep handle rfl
    have hlength : handle < started.length := h.length ▸ hlt
    have henumeration : started[handle]? = some started[handle] :=
      List.getElem?_eq_getElem hlength
    have hsequence : (startedBy done)[handle]? = some (startedBy done)[handle] :=
      List.getElem?_eq_getElem hlt
    exact ⟨_, perform_pull henumeration, tracks_pull h henumeration,
      .pull hsequence (h.enumeration handle _ _ henumeration hsequence)⟩

/-- **All steps answer**, each as the steps before it say. -/
theorem answers_readFrom {rest done : List ReaderStep} {started : List (Enumeration ρ)}
    (h : Tracks application records done started)
    (hrest : ∀ index handle, rest[index]? = some (.pull handle) →
      handle < (startedBy (done ++ rest.take index)).length) :
    ∃ answers, application.readFrom records started rest = some answers
      ∧ ∀ index step, rest[index]? = some step →
        ∃ answer, answers[index]? = some answer
          ∧ Answers application records (done ++ rest.take index) step answer := by
  induction rest generalizing done started with
  | nil => exact ⟨[], rfl, fun index step h => nomatch h⟩
  | cons step rest ih =>
    have hstep : ∀ handle, step = .pull handle → handle < (startedBy done).length := by
      rintro handle rfl
      simpa using hrest 0 handle rfl
    obtain ⟨performed, hperform, hnext, hanswer⟩ := tracks_step h step hstep
    have hmore : ∀ index handle, rest[index]? = some (.pull handle) →
        handle < (startedBy (done ++ [step] ++ rest.take index)).length := by
      intro index handle hpull
      simpa using hrest (index + 1) handle hpull
    obtain ⟨answers, hread, hanswers⟩ := ih hnext hmore
    refine ⟨⟨performed.value.1, performed.log⟩ :: answers,
      by rw [readFrom, hperform]; simp [hread], ?_⟩
    intro index other hother
    cases index with
    | zero =>
      cases Option.some.inj hother
      exact ⟨_, rfl, by simpa using hanswer⟩
    | succ index =>
      obtain ⟨found, hfound, hanswered⟩ := hanswers index other hother
      exact ⟨found, hfound, by simpa using hanswered⟩

/-- Every pull returns the record that the number of earlier pulls of its enumeration says. -/
theorem tracks_readFrom {rest done : List ReaderStep} {started : List (Enumeration ρ)}
    (h : Tracks application records done started)
    (hrest : ∀ index handle, rest[index]? = some (.pull handle) →
      handle < (startedBy (done ++ rest.take index)).length) :
    ∃ answers, application.readFrom records started rest = some answers
      ∧ ∀ index handle, rest[index]? = some (.pull handle) →
        ∃ sequence, (startedBy (done ++ rest.take index))[handle]? = some sequence
          ∧ answers[index]?.map ReaderAnswer.found
            = some ((application.selection sequence).result records)[
                pullsOf handle (done ++ rest.take index)]? := by
  obtain ⟨answers, hread, hanswers⟩ := answers_readFrom h hrest
  refine ⟨answers, hread, fun index handle hpull => ?_⟩
  obtain ⟨answer, hanswer, hanswered⟩ := hanswers index _ hpull
  cases hanswered with
  | @pull _ sequence hsequence enumeration henumeration =>
    refine ⟨sequence, hsequence, ?_⟩
    rw [hanswer, Option.map_some, henumeration, Enumeration.found_next, Enumeration.upcoming_after,
      Selection.upcoming_enumerate, List.head?_drop]

end Application

/-! ## The records of a query -/

namespace Query

variable {binding : Binding ρ} {query : Query} {application : Application ρ}

/-- The records of a sequence, given all matches in their order. -/
def recordsOf (query : Query) (sorted : List ρ) : Sequence → List ρ
  | .result => query.pageOf sorted
  | .countSource => sorted

/-- Each sequence of a query holds its records. -/
theorem result_selection (happly : query.apply binding = .ok application) {records : List ρ}
    (hsortable : binding.Sortable query.orderBy
      (records.filter (binding.accepts query.filter))) (sequence : Sequence) :
    (application.selection sequence).result records
      = query.recordsOf (arrange (binding.compareBy query.orderBy)
          (records.filter (binding.accepts query.filter))) sequence := by
  obtain ⟨hresult, hcountSource⟩ := apply_eq_ok.1 happly
  cases sequence with
  | result =>
    show application.result.result records = _
    rw [Selection.result, Selection.page_of_ofQuery hresult,
      Selection.ordered_of_ofQuery hresult hsortable]
    rfl
  | countSource =>
    have hsortable' : binding.Sortable query.unpaged.orderBy
        (records.filter (binding.accepts query.unpaged.filter)) := hsortable
    show application.countSource.result records = _
    rw [Selection.result, Selection.page_of_ofQuery hcountSource,
      Selection.ordered_of_ofQuery hcountSource hsortable']
    rfl

/-- The query for the page with an index among pages of a size. -/
def pageAt (query : Query) (size : UInt64) (index : Nat) : Query :=
  query.update {
    skip := some (some (UInt64.ofNat (index * size.toNat)))
    top := some (some size) }

/-- A query for a page can be answered if the query can. -/
theorem exists_apply_pageAt (happly : query.apply binding = .ok application) (size : UInt64)
    (index : Nat) : ∃ page, (query.pageAt size index).apply binding = .ok page := by
  obtain ⟨hresult, hcountSource⟩ := apply_eq_ok.1 happly
  obtain ⟨hfilter, hkeys, -, -⟩ := Selection.ofQuery_eq_ok.1 hresult
  have hpage : Selection.ofQuery binding (query.pageAt size index) = .ok
      { application.result with
        skip := ((query.pageAt size index).skip.getD 0).toNat
        top := (query.pageAt size index).top.map UInt64.toNat } :=
    Selection.ofQuery_eq_ok.2 ⟨hfilter, hkeys, rfl, rfl⟩
  -- all pages of a query have the same matches
  have hunpaged : (query.pageAt size index).unpaged = query.unpaged := rfl
  exact ⟨⟨_, application.countSource⟩, apply_eq_ok.2 ⟨hpage, by rw [hunpaged, hcountSource]⟩⟩

/-- Consecutive stretches of a list make up its start. -/
theorem flatMap_range_take_drop (records : List ρ) (size count : Nat) :
    (List.range count).flatMap (fun index => (records.drop (index * size)).take size)
      = records.take (count * size) := by
  induction count with
  | zero => simp
  | succ count ih =>
    rw [List.range_succ, List.flatMap_append, ih, List.flatMap_singleton, Nat.succ_mul,
      List.take_add]

/-- The pulls of a page that exhaust it return the stretch of the matches that it stands for. -/
theorem pulled_pageAt {size : UInt64} {index pulls : Nat} {page : Application ρ}
    (hpage : (query.pageAt size index).apply binding = .ok page) {records : List ρ}
    (hsortable : binding.Sortable query.orderBy
      (records.filter (binding.accepts query.filter)))
    (hskip : index * size.toNat < UInt64.size) (hpulls : size.toNat ≤ pulls) :
    (page.result.enumerate records).pulled pulls
      = ((arrange (binding.compareBy query.orderBy)
          (records.filter (binding.accepts query.filter))).drop (index * size.toNat)).take
            size.toNat := by
  have hresult := result_selection hpage hsortable .result
  have hnat : (UInt64.ofNat (index * size.toNat)).toNat = index * size.toNat :=
    UInt64.toNat_ofNat_of_lt hskip
  rw [Enumeration.pulled_eq, Selection.upcoming_enumerate]
  show ((page.selection .result).result records).take pulls = _
  rw [hresult]
  show (List.take size.toNat (List.drop (UInt64.ofNat _).toNat _)).take pulls = _
  rw [hnat, List.take_take, Nat.min_eq_right hpulls]
  rfl

/-- **Enumerations return the stable sort of the matches.**  There is one list of the matches that is
in the ordering and keeps equal records in the order of the source.  However enumerations of the two
sequences are started and pulled in turns, each pull returns the record of its sequence at the number
of earlier pulls of the same enumeration, and nothing where there is none; and the pages of any size
make up the whole list. -/
theorem enumerations_return_stable_sort (happly : query.apply binding = .ok application)
    {records : List ρ}
    (hsortable : binding.Sortable query.orderBy
      (records.filter (binding.accepts query.filter))) :
    ∃ sorted : List ρ,
      (∀ other, IsStableSort (binding.compareBy query.orderBy)
        (records.filter (binding.accepts query.filter)) other ↔ other = sorted)
      ∧ (∀ steps, ReaderStep.Interleaves steps →
        ∃ answers, application.read records steps = some answers
          ∧ ∀ index handle, steps[index]? = some (.pull handle) →
            ∃ sequence, (ReaderStep.startedBy (steps.take index))[handle]? = some sequence
              ∧ answers[index]?.map ReaderAnswer.found
                = some (query.recordsOf sorted sequence)[
                    ReaderStep.pullsOf handle (steps.take index)]?)
      ∧ ∀ (size : UInt64) (count pulls : Nat),
        (∀ index < count, index * size.toNat < UInt64.size) →
        sorted.length ≤ count * size.toNat → size.toNat ≤ pulls →
        ∃ pages : Nat → Application ρ,
          (∀ index, (query.pageAt size index).apply binding = .ok (pages index))
          ∧ (List.range count).flatMap (fun index =>
            ((pages index).result.enumerate records).pulled pulls) = sorted := by
  have hranks := Binding.ranks_compareBy hsortable
  have hstable := isStableSort_arrange hranks
  refine ⟨_, fun other => ⟨fun hother => hother.unique hranks hstable, ?_⟩,
    fun steps hsteps => ?_, fun size count pulls hskips hlength hpulls => ?_⟩
  · rintro rfl
    exact hstable
  · obtain ⟨answers, hread, hanswers⟩ :=
      Application.tracks_readFrom (Application.tracks_nil application records) hsteps
    refine ⟨answers, hread, fun index handle hpull => ?_⟩
    obtain ⟨sequence, hsequence, hfound⟩ := hanswers index handle hpull
    rw [result_selection happly hsortable] at hfound
    exact ⟨sequence, hsequence, hfound⟩
  · choose pages hpages using fun index => exists_apply_pageAt happly size index
    refine ⟨pages, hpages, ?_⟩
    have hstretch : ∀ index ∈ List.range count,
        ((pages index).result.enumerate records).pulled pulls
          = ((arrange (binding.compareBy query.orderBy)
              (records.filter (binding.accepts query.filter))).drop (index * size.toNat)).take
                size.toNat := fun index hindex =>
      pulled_pageAt (hpages index) hsortable (hskips index (List.mem_range.1 hindex)) hpulls
    rw [List.flatMap_congr hstretch, flatMap_range_take_drop, List.take_of_length_le hlength]

/-- The rule for a page of an ordering with ties, in which two enumerations take turns and one is
pulled past its end. -/
theorem enumerations_return_stable_sort_of_ties :
    let binding : Binding (Int64 × Option String) := ⟨"Note", .ofList
      [("Id", ⟨{ type := .integer }, fun note => .int note.1⟩),
        ("Text", ⟨{ type := .string }, fun note => note.2.elim .null .string⟩)]⟩
    let query : Query := {
      filter := some (.binary (.property "Id") (.comparison .ne) (.literal (.int 7)))
      orderBy := [⟨"Text", .desc⟩]
      skip := some 1
      top := some 2 }
    let records : List (Int64 × Option String) :=
      [(2, some "a"), (1, none), (7, some "b"), (3, some "a"), (4, some "b")]
    let steps : List ReaderStep := [.start .result, .start .countSource, .pull 1, .pull 0, .pull 1,
      .pull 0, .pull 0, .pull 0]
    ∃ application sorted, query.apply binding = .ok application
      ∧ (∀ other, IsStableSort (binding.compareBy query.orderBy)
        (records.filter (binding.accepts query.filter)) other ↔ other = sorted)
      ∧ (∃ answers, application.read records steps = some answers
        ∧ answers[7]?.map ReaderAnswer.found = some (query.recordsOf sorted .result)[3]?)
      ∧ ∃ pages : Nat → Application (Int64 × Option String),
        (∀ index, (query.pageAt 3 index).apply binding = .ok (pages index))
        ∧ (List.range 2).flatMap (fun index =>
          ((pages index).result.enumerate records).pulled 3) = sorted := by
  intro binding query records steps
  obtain ⟨application, happly⟩ : ∃ application, query.apply binding = .ok application := ⟨_, rfl⟩
  have hall : binding.Sortable query.orderBy records := by
    intro key hkey
    obtain rfl := List.mem_singleton.1 hkey
    exact ⟨.string, by decide, by decide⟩
  have hsteps : ReaderStep.Interleaves steps := by
    intro index handle hpull
    rcases index with _ | _ | _ | _ | _ | _ | _ | _ | index <;> cases hpull <;> decide
  obtain ⟨sorted, hsorted, hread, hpages⟩ :=
    enumerations_return_stable_sort happly (hall.subset (List.filter_subset_self records))
  obtain ⟨answers, hanswers, hfound⟩ := hread steps hsteps
  refine ⟨application, sorted, happly, hsorted, ⟨answers, hanswers, ?_⟩, ?_⟩
  · obtain ⟨sequence, hsequence, hlast⟩ := hfound 7 0 rfl
    obtain rfl : Sequence.result = sequence := Option.some.inj hsequence
    exact hlast
  · have hlength : sorted.length ≤ 2 * (3 : UInt64).toNat := by
      rw [((hsorted sorted).2 rfl).perm.length_eq]
      exact Nat.le_trans (List.length_filter_le _ records) (by decide)
    have hskips : ∀ index < 2, index * (3 : UInt64).toNat < UInt64.size := by decide
    exact hpages 3 2 3 hskips hlength (by decide)

end Query

end ODataQuery
