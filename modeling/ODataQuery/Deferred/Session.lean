import ODataQuery.Deferred.Execution

/-!
# Sessions

A session is a sequence of steps on deferred queries.  It starts with one query; each continuation
adds one, and every query stays available under its handle, which is its place in the order of
their making.

* `Session.perform`: the effect of one step, and its answer, with a log of what happens in it.
* `Session.trace`, `Session.run`: the answers of a sequence of steps, with their logs and without.
-/

set_option autoImplicit false

namespace ODataQuery

/-- One step on the query of a handle. -/
inductive SessionStep where
  | andThen (of : Nat) (operation : Operation)
  | describe (of : Nat)
  | execute (of : Nat)

/-- The handle of the query that a step is about. -/
def SessionStep.handle : SessionStep → Nat
  | andThen of _ => of
  | describe of => of
  | execute of => of

/-- What a step answers. -/
inductive SessionAnswer (ρ ε : Type) where
  /-- The handle of the new query. -/
  | added (handle : Nat)
  | described (text : String)
  | executed (execution : Execution ρ ε)

/-- The queries of a session, each at its handle. -/
abbrev Session := List DeferredQuery

namespace Session

variable {ρ ε : Type}

/-- The answer of a step on a query, and the queries after it. -/
def performOn (executor : Executor ρ ε) (session : Session) (deferred : DeferredQuery) :
    SessionStep → Logged Event (SessionAnswer ρ ε × Session)
  | .andThen _ operation =>
    pure (.added session.length, session ++ [deferred.andThen operation])
  | .describe _ => pure (.described deferred.describe, session)
  | .execute _ => do
    let execution ← (deferred.materialize executor).run.listen
    pure (.executed (.ofLogged execution), session)

/-- The answer of a step, and the queries after it; there is none if the handle names no query. -/
def perform (executor : Executor ρ ε) (session : Session) (step : SessionStep) :
    Option (Logged Event (SessionAnswer ρ ε × Session)) :=
  session[step.handle]?.map fun deferred => performOn executor session deferred step

/-- The answers of a sequence of steps, each with the events of its step, if every handle names a
query. -/
def trace (executor : Executor ρ ε) (session : Session) :
    List SessionStep → Option (List (Logged Event (SessionAnswer ρ ε)))
  | [] => some []
  | step :: rest => do
    let performed ← perform executor session step
    let (answer, session) := performed.value
    let answers ← trace executor session rest
    some (⟨answer, performed.log⟩ :: answers)

/-- The answers of a sequence of steps, if every handle names a query. -/
def run (executor : Executor ρ ε) (session : Session) (steps : List SessionStep) :
    Option (List (SessionAnswer ρ ε)) :=
  (trace executor session steps).map (List.map Logged.value)

end Session
end ODataQuery
