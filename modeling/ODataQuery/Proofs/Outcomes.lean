/-!
# Taking computations apart

A computation that can fail succeeds exactly when each of its steps does, and fails as the first of
them that does not.  These are the laws by which the developments below take a success or a failure
apart.
-/

set_option autoImplicit false

namespace ODataQuery

variable {ε ε' α β : Type}

/-- A sequence succeeds when its first step does and what follows does with its result. -/
theorem bind_eq_ok {x : Except ε α} {f : α → Except ε β} {b : β} :
    x >>= f = .ok b ↔ ∃ a, x = .ok a ∧ f a = .ok b := by
  cases x <;> simp [bind, Except.bind]

theorem map_eq_ok {x : Except ε α} {f : α → β} {b : β} :
    x.map f = .ok b ↔ ∃ a, x = .ok a ∧ f a = b := by
  cases x <;> simp [Except.map]

/-- Renaming the errors changes no success. -/
theorem mapError_eq_ok {x : Except ε α} {f : ε → ε'} {a : α} :
    x.mapError f = .ok a ↔ x = .ok a := by
  cases x with
  | error error => exact ⟨fun h => (nomatch h), fun h => (nomatch h)⟩
  | ok result =>
    exact ⟨fun h => congrArg _ (Except.ok.inj h), fun h => congrArg _ (Except.ok.inj h)⟩

theorem toOption_eq_some {x : Except ε α} {a : α} : x.toOption = some a ↔ x = .ok a := by
  cases x <;> simp [Except.toOption]

/-- A sequence fails when its first step does, or when what follows does with its result. -/
theorem bind_eq_error {x : Except ε α} {f : α → Except ε β} {error : ε} :
    x >>= f = .error error ↔ x = .error error ∨ ∃ a, x = .ok a ∧ f a = .error error := by
  cases x <;> simp [bind, Except.bind]

theorem map_eq_error {x : Except ε α} {f : α → β} {error : ε} :
    x.map f = .error error ↔ x = .error error := by
  cases x <;> simp [Except.map]

theorem mapError_eq_error {x : Except ε α} {f : ε → ε'} {error : ε'} :
    x.mapError f = .error error ↔ ∃ cause, x = .error cause ∧ f cause = error := by
  cases x with
  | error cause =>
    constructor
    · intro h
      exact ⟨cause, rfl, Except.error.inj h⟩
    · rintro ⟨_, ⟨⟩, rfl⟩
      rfl
  | ok result => exact ⟨fun h => (nomatch h), fun h => (nomatch h)⟩

/-- The error of a failure. -/
def failure? : Except ε α → Option ε
  | .error error => some error
  | .ok _ => none

theorem failure?_map (f : α → β) (outcome : Except ε α) :
    failure? (outcome.map f) = failure? outcome := by
  cases outcome <;> rfl

/-- Two sequences agree on a view of their results if their first steps agree on a view of theirs
and what follows cannot tell results of one view apart. -/
theorem map_bind_congr {γ δ : Type} {x x' : Except ε α} {k k' : α → Except ε β} {f : α → γ}
    {g : β → δ} (hx : x.map f = x'.map f)
    (hk : ∀ a a', f a = f a' → (k a).map g = (k' a').map g) :
    (x >>= k).map g = (x' >>= k').map g := by
  cases x with
  | error error =>
    cases x' with
    | error error' => rw [Except.error.inj hx]; rfl
    | ok a' => cases hx
  | ok a =>
    cases x' with
    | error error' => cases hx
    | ok a' => exact hk a a' (Except.ok.inj hx)

end ODataQuery
