import ODataQuery.Records.Selection

/-!
# Enumerating results

A result is enumerated by pulling one record after another.  Nothing is read before the first pull,
and no more than is needed then: without an ordering, records are tested until one matches; with one,
the first pull finds and sorts all matches.

* `Enumeration`: how far an enumeration has come.
* `Enumeration.next`: one pull — the record and the enumeration after it, with what was read for it.
* `Selection.enumerate`: an enumeration that has not begun.
-/

set_option autoImplicit false

namespace ODataQuery

/-- What is left of the records of an enumeration. -/
inductive Remaining (ρ : Type) where
  /-- Records to test. -/
  | untested (records : List ρ)
  /-- Records to test and sort. -/
  | unsorted (records : List ρ)
  /-- Matches in their order. -/
  | sorted (records : List ρ)
  deriving DecidableEq, Repr

/-- How far an enumeration has come: what is left of the records, how many matches are to be skipped
before the next one, and how many may still be returned. -/
structure Enumeration (ρ : Type) where
  selection : Selection ρ
  remaining : Remaining ρ
  toSkip : Nat
  limit : Option Nat

variable {ρ : Type}

namespace Selection

/-- Find the first match among records, and the records after it. -/
def findMatch (selection : Selection ρ) : List ρ → Logged (Access ρ) (Option ρ × List ρ)
  | [] => pure (none, [])
  | record :: rest => do
    let found ← selection.test record
    if found then pure (some record, rest) else selection.findMatch rest

/-- Take the next match from what is left, and what is left then. -/
def advance (selection : Selection ρ) :
    Remaining ρ → Logged (Access ρ) (Option ρ × Remaining ρ)
  | .untested records => do
    let (found, rest) ← selection.findMatch records
    pure (found, .untested rest)
  | .unsorted records => do
    let matching ← records.filterM selection.test
    let sorted ← selection.putInOrder matching
    pure (sorted.head?, .sorted sorted.tail)
  | .sorted records => pure (records.head?, .sorted records.tail)

/-- Skip some matches and take the next one; stop where there is none. -/
def advancePast (selection : Selection ρ) :
    Nat → Remaining ρ → Logged (Access ρ) (Option ρ × Remaining ρ)
  | 0, remaining => selection.advance remaining
  | count + 1, remaining => do
    match ← selection.advance remaining with
    | (none, remaining) => pure (none, remaining)
    | (some _, remaining) => selection.advancePast count remaining

/-- An enumeration of the result that has not begun. -/
def enumerate (selection : Selection ρ) (records : List ρ) : Enumeration ρ where
  selection := selection
  remaining := if selection.keys.isEmpty then .untested records else .unsorted records
  toSkip := selection.skip
  limit := selection.top

end Selection

namespace Enumeration

/-- Pull the next record: the record, if there is one, and the enumeration after the pull. -/
def next (enumeration : Enumeration ρ) : Logged (Access ρ) (Option ρ × Enumeration ρ) :=
  if enumeration.limit = some 0 then pure (none, enumeration)
  else do
    let (found, remaining) ←
      enumeration.selection.advancePast enumeration.toSkip enumeration.remaining
    pure (found,
      { enumeration with
        remaining := remaining, toSkip := 0, limit := enumeration.limit.map (· - 1) })

end Enumeration
end ODataQuery
