import ODataQuery.Records.Enumeration

/-!
# Enumerations in turns

A query gives two sequences, its result and all its matches, and each can be enumerated any number
of times.  A reader starts enumerations and pulls them in any order; an enumeration stays available
under its handle, which is its place in the order of their starting.

* `Sequence`, `Application.selection`: the two sequences.
* `Application.perform`: the effect of one step of a reader, and its answer.
* `Application.read`: the answers of a list of steps.
-/

set_option autoImplicit false

namespace ODataQuery

/-- The sequences that a query gives. -/
inductive Sequence where
  | result
  /-- All matches, whatever the page is. -/
  | countSource
  deriving DecidableEq, Repr

/-- One step of a reader. -/
inductive ReaderStep where
  /-- Start another enumeration of a sequence. -/
  | start (sequence : Sequence)
  /-- Pull the next record of the enumeration with a handle. -/
  | pull (handle : Nat)
  deriving DecidableEq, Repr

/-- What a step answers: the record, if it pulled one, and what was read for it. -/
structure ReaderAnswer (ρ : Type) where
  found : Option ρ
  reads : List (Access ρ)

namespace Application

variable {ρ : Type}

/-- The selection of a sequence. -/
def selection (application : Application ρ) : Sequence → Selection ρ
  | .result => application.result
  | .countSource => application.countSource

/-- The record that a step returns, and the enumerations after it; there are none if the handle
names no enumeration. -/
def perform (application : Application ρ) (records : List ρ) (started : List (Enumeration ρ)) :
    ReaderStep → Option (Logged (Access ρ) (Option ρ × List (Enumeration ρ)))
  | .start sequence =>
    some (pure (none, started ++ [(application.selection sequence).enumerate records]))
  | .pull handle =>
    started[handle]?.map fun enumeration => do
      let (found, next) ← enumeration.next
      pure (found, started.set handle next)

/-- The answers of steps that follow the start of some enumerations, if every handle names one. -/
def readFrom (application : Application ρ) (records : List ρ) (started : List (Enumeration ρ)) :
    List ReaderStep → Option (List (ReaderAnswer ρ))
  | [] => some []
  | step :: rest => do
    let performed ← application.perform records started step
    let (found, started) := performed.value
    let answers ← application.readFrom records started rest
    some (⟨found, performed.log⟩ :: answers)

/-- The answers of the steps of a reader. -/
def read (application : Application ρ) (records : List ρ) (steps : List ReaderStep) :
    Option (List (ReaderAnswer ρ)) :=
  application.readFrom records [] steps

end Application
end ODataQuery
