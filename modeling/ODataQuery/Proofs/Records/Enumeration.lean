import Mathlib.Data.List.TakeDrop
import ODataQuery.Records.Enumeration

/-!
# What an enumeration returns

An enumeration is a machine that finds, sorts, skips and counts records as they are pulled.  Seen
from outside it is a list: a pull takes its head and leaves its tail, for ever.

* `Remaining.matches`: the matches among what is left of the records, in their order.
* `Selection.advance_untested`, `Selection.advance_unsorted`: how a match is taken, and what is read
  for it; `Selection.advancePast_of_none`, `Selection.advancePast_of_some`: how matches are skipped.
* `Selection.advance_eq`, `Selection.advancePast_eq`: the machine takes them one by one.
* `Enumeration.upcoming`: the records that an enumeration will still return.
* `Enumeration.next_eq`, `Enumeration.next_of_limit_zero`: what one pull does.
* `Enumeration.found_next`, `Enumeration.upcoming_next`: what that is to who looks from outside.
* `Enumeration.after`, `Enumeration.upcoming_after`: an enumeration after some pulls.
* `Selection.upcoming_enumerate`: an enumeration that has not begun will return the result.
* `Enumeration.pulled_eq`: what some pulls return together.
-/

set_option autoImplicit false

namespace ODataQuery

variable {ρ : Type}

/-! ## What is left of the records -/

/-- The matches among what is left of the records, in the order in which they will be taken. -/
def Remaining.matches (selection : Selection ρ) : Remaining ρ → List ρ
  | .untested records => records.filter selection.accepts
  | .unsorted records => selection.sort (records.filter selection.accepts)
  | .sorted records => records

namespace Selection

/-- The first match is found, and the other matches are behind it. -/
theorem findMatch_eq (selection : Selection ρ) (records : List ρ) :
    (selection.findMatch records).value.1 = (records.filter selection.accepts).head?
      ∧ (selection.findMatch records).value.2.filter selection.accepts
        = (records.filter selection.accepts).tail := by
  induction records with
  | nil => exact ⟨rfl, rfl⟩
  | cons record rest ih =>
    rw [findMatch, Logged.value_bind, value_test]
    by_cases haccepts : selection.accepts record
    · simp [haccepts]
    · simpa [haccepts] using ih

theorem advance_untested (selection : Selection ρ) (records : List ρ) :
    selection.advance (.untested records)
      = ⟨((selection.findMatch records).value.1, .untested (selection.findMatch records).value.2),
        (selection.findMatch records).log⟩ :=
  Logged.bind_of_silent rfl

/-- All matches are found before they are sorted. -/
theorem advance_unsorted (selection : Selection ρ) (records : List ρ) :
    let matching := records.filter selection.accepts
    selection.advance (.unsorted records)
      = ⟨((selection.sort matching).head?, .sorted (selection.sort matching).tail),
        records.flatMap (fun record => (selection.test record).log)
          ++ (selection.putInOrder matching).log⟩ := by
  intro matching
  have hmatching : records.filterM selection.test
      = ⟨matching, records.flatMap fun record => (selection.test record).log⟩ :=
    congr (congrArg Logged.mk (Logged.value_filterM _ _)) (Logged.log_filterM _ _)
  rw [advance, hmatching, Logged.bind_eq, Logged.bind_of_silent rfl]
  rfl

/-- One match is taken, and the others are left. -/
theorem advance_eq (selection : Selection ρ) (remaining : Remaining ρ) :
    (selection.advance remaining).value.1 = (remaining.matches selection).head?
      ∧ (selection.advance remaining).value.2.matches selection
        = (remaining.matches selection).tail := by
  cases remaining with
  | untested records =>
    rw [advance_untested]
    exact selection.findMatch_eq records
  | unsorted records =>
    rw [advance_unsorted]
    exact ⟨rfl, rfl⟩
  | sorted records => exact ⟨rfl, rfl⟩

/-- Skipping stops where there is no match. -/
theorem advancePast_of_none {selection : Selection ρ} {remaining next : Remaining ρ}
    (h : (selection.advance remaining).value = (none, next)) (count : Nat) :
    selection.advancePast (count + 1) remaining
      = ⟨(none, next), (selection.advance remaining).log⟩ := by
  rw [advancePast, Logged.bind_of_silent (by rw [h]; rfl), h]
  rfl

/-- Skipping a match goes on with what is left. -/
theorem advancePast_of_some {selection : Selection ρ} {remaining next : Remaining ρ} {found : ρ}
    (h : (selection.advance remaining).value = (some found, next)) (count : Nat) :
    selection.advancePast (count + 1) remaining
      = ⟨(selection.advancePast count next).value,
        (selection.advance remaining).log ++ (selection.advancePast count next).log⟩ := by
  rw [advancePast, Logged.bind_eq, h]

/-- Matches are skipped, as far as there are any, and one is taken. -/
theorem advancePast_eq (selection : Selection ρ) (count : Nat) (remaining : Remaining ρ) :
    (selection.advancePast count remaining).value.1
        = ((remaining.matches selection).drop count).head?
      ∧ (selection.advancePast count remaining).value.2.matches selection
        = ((remaining.matches selection).drop count).tail := by
  induction count generalizing remaining with
  | zero => exact selection.advance_eq remaining
  | succ count ih =>
    obtain ⟨hfound, hmatches⟩ := selection.advance_eq remaining
    rcases hadvance : (selection.advance remaining).value with ⟨_ | found, next⟩ <;>
      rw [hadvance] at hfound hmatches
    · -- there is no match, so skipping more of them changes nothing
      have hnil : remaining.matches selection = [] := List.head?_eq_none_iff.1 hfound.symm
      have hnext : next.matches selection = [] := by rw [hmatches, hnil, List.tail_nil]
      rw [advancePast_of_none hadvance, hnext, hnil]
      exact ⟨rfl, rfl⟩
    · have hdrop : (remaining.matches selection).drop (count + 1)
          = (next.matches selection).drop count := by
        rw [hmatches, List.drop_tail]
      rw [advancePast_of_some hadvance, hdrop]
      exact ih next

end Selection

/-! ## Pulls -/

namespace Enumeration

/-- The records that an enumeration will still return. -/
def upcoming (enumeration : Enumeration ρ) : List ρ :=
  let unskipped := (enumeration.remaining.matches enumeration.selection).drop enumeration.toSkip
  match enumeration.limit with
  | none => unskipped
  | some limit => unskipped.take limit

/-- A pull takes a match, as long as one may be returned. -/
theorem next_eq {enumeration : Enumeration ρ} (h : enumeration.limit ≠ some 0) :
    let advanced := enumeration.selection.advancePast enumeration.toSkip enumeration.remaining
    enumeration.next = ⟨(advanced.value.1,
      { enumeration with
        remaining := advanced.value.2, toSkip := 0, limit := enumeration.limit.map (· - 1) }),
      advanced.log⟩ := by
  intro advanced
  rw [next, if_neg h]
  exact Logged.bind_of_silent rfl

/-- Where nothing may be returned, nothing is done. -/
theorem next_of_limit_zero {enumeration : Enumeration ρ} (h : enumeration.limit = some 0) :
    enumeration.next = ⟨(none, enumeration), []⟩ :=
  if_pos h

theorem upcoming_of_limit_zero {enumeration : Enumeration ρ} (h : enumeration.limit = some 0) :
    enumeration.upcoming = [] := by
  simp [upcoming, h]

/-- **A pull returns the next record**, if there is one. -/
theorem found_next (enumeration : Enumeration ρ) :
    enumeration.next.value.1 = enumeration.upcoming.head? := by
  by_cases h : enumeration.limit = some 0
  · rw [next_of_limit_zero h, upcoming_of_limit_zero h, List.head?_nil]
  · obtain ⟨hfound, -⟩ :=
      enumeration.selection.advancePast_eq enumeration.toSkip enumeration.remaining
    rw [next_eq h, upcoming]
    cases hlimit : enumeration.limit with
    | none => exact hfound
    | some limit =>
      have hpositive : limit ≠ 0 := fun hzero => h (hzero ▸ hlimit)
      rw [hfound, List.head?_take, if_neg hpositive]

/-- **A pull leaves the records after the next one**, and none if there was none. -/
theorem upcoming_next (enumeration : Enumeration ρ) :
    enumeration.next.value.2.upcoming = enumeration.upcoming.tail := by
  by_cases h : enumeration.limit = some 0
  · rw [next_of_limit_zero h, upcoming_of_limit_zero h, List.tail_nil]
  · obtain ⟨-, hmatches⟩ :=
      enumeration.selection.advancePast_eq enumeration.toSkip enumeration.remaining
    rw [next_eq h]
    cases hlimit : enumeration.limit with
    | none =>
      simp only [upcoming, hlimit, Option.map_none, List.drop_zero]
      exact hmatches
    | some limit =>
      simp only [upcoming, hlimit, Option.map_some, List.drop_zero]
      rw [hmatches, List.tail_take_eq_take_tail]

/-- The enumeration after a number of pulls. -/
def after (enumeration : Enumeration ρ) : Nat → Enumeration ρ
  | 0 => enumeration
  | pulls + 1 => enumeration.next.value.2.after pulls

theorem after_succ (enumeration : Enumeration ρ) (pulls : Nat) :
    enumeration.after (pulls + 1) = (enumeration.after pulls).next.value.2 := by
  induction pulls generalizing enumeration with
  | zero => rfl
  | succ pulls ih => rw [after, ih, after]

/-- Pulls leave the records after those that they return. -/
theorem upcoming_after (enumeration : Enumeration ρ) (pulls : Nat) :
    (enumeration.after pulls).upcoming = enumeration.upcoming.drop pulls := by
  induction pulls with
  | zero => rw [after, List.drop_zero]
  | succ pulls ih => rw [after_succ, upcoming_next, ih, List.tail_drop]

/-- The records that a number of pulls return. -/
def pulled (enumeration : Enumeration ρ) : Nat → List ρ
  | 0 => []
  | pulls + 1 => enumeration.next.value.1.toList ++ enumeration.next.value.2.pulled pulls

/-- Pulls return the records that come next. -/
theorem pulled_eq (enumeration : Enumeration ρ) (pulls : Nat) :
    enumeration.pulled pulls = enumeration.upcoming.take pulls := by
  induction pulls generalizing enumeration with
  | zero => rw [pulled, List.take_zero]
  | succ pulls ih =>
    rw [pulled, ih, found_next, upcoming_next]
    cases enumeration.upcoming with
    | nil => simp
    | cons record rest => rfl

end Enumeration

/-- **An enumeration that has not begun will return the result.** -/
theorem Selection.upcoming_enumerate (selection : Selection ρ) (records : List ρ) :
    (selection.enumerate records).upcoming = selection.result records := by
  have hmatches : (selection.enumerate records).remaining.matches selection
      = selection.ordered records := by
    rw [enumerate, ordered]
    split
    · rfl
    · rfl
  rw [Enumeration.upcoming, result, page, ← hmatches]
  rfl

end ODataQuery
