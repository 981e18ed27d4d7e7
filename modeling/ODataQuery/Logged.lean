/-!
# Computations with a log

A logged computation has a value and the entries that were made while it was computed, in order.  An
entry is made where the thing happens that it tells of (`Logged.noting`), and the logs of
computations in a row are put together by the monad, so that no log is written beside its
computation.

* `Logged`, `Logged.noting`, `Logged.relabel`: logged computations, one entry, and entries in other
  words.
* `Logged.value_bind`, `Logged.log_bind`: the value and the log of two computations in a row.
* `Logged.value_mapM`, `Logged.log_mapM`, `Logged.value_filterM`, `Logged.log_filterM`: those of one
  computation for each element of a list.
-/

set_option autoImplicit false

namespace ODataQuery

/-- A value, and the entries that were made while it was computed. -/
structure Logged (τ α : Type) where
  value : α
  log : List τ

namespace Logged

variable {τ τ' α β : Type}

/-- A value whose computation is worth one entry. -/
def noting (entry : τ) (value : α) : Logged τ α := ⟨value, [entry]⟩

/-- The same computation, whose entries are put in other words. -/
def relabel (f : τ → τ') (logged : Logged τ α) : Logged τ' α := ⟨logged.value, logged.log.map f⟩

/-- The computation with its log as a part of its value. -/
def listen (logged : Logged τ α) : Logged τ (Logged τ α) := ⟨logged, logged.log⟩

instance : Monad (Logged τ) where
  pure value := ⟨value, []⟩
  bind first next :=
    let second := next first.value
    ⟨second.value, first.log ++ second.log⟩

instance : LawfulMonad (Logged τ) := LawfulMonad.mk' (Logged τ)
  (fun logged => congrArg (mk logged.value) (List.append_nil logged.log))
  (fun _ _ => rfl)
  (fun _ _ _ => congrArg (mk _) (List.append_assoc ..))

@[simp] theorem value_pure (value : α) : (pure value : Logged τ α).value = value := rfl

@[simp] theorem log_pure (value : α) : (pure value : Logged τ α).log = [] := rfl

theorem bind_eq (first : Logged τ α) (next : α → Logged τ β) :
    first >>= next = ⟨(next first.value).value, first.log ++ (next first.value).log⟩ := rfl

/-- What makes no entry adds none to the log before it. -/
theorem bind_of_silent {first : Logged τ α} {next : α → Logged τ β}
    (h : (next first.value).log = []) :
    first >>= next = ⟨(next first.value).value, first.log⟩ := by
  rw [bind_eq, h, List.append_nil]

@[simp] theorem value_bind (first : Logged τ α) (next : α → Logged τ β) :
    (first >>= next).value = (next first.value).value := rfl

@[simp] theorem log_bind (first : Logged τ α) (next : α → Logged τ β) :
    (first >>= next).log = first.log ++ (next first.value).log := rfl

@[simp] theorem value_map (f : α → β) (logged : Logged τ α) :
    (f <$> logged).value = f logged.value := rfl

@[simp] theorem log_map (f : α → β) (logged : Logged τ α) : (f <$> logged).log = logged.log :=
  List.append_nil _

@[simp] theorem value_mapM (f : α → Logged τ β) (elements : List α) :
    (elements.mapM f).value = elements.map fun a => (f a).value := by
  induction elements with
  | nil => rfl
  | cons a rest ih => simp [ih]

@[simp] theorem log_mapM (f : α → Logged τ β) (elements : List α) :
    (elements.mapM f).log = elements.flatMap fun a => (f a).log := by
  induction elements with
  | nil => rfl
  | cons a rest ih => simp [ih]

/-- The library collects what it keeps in a list that has the last element first. -/
theorem filterAuxM_eq (f : α → Logged τ Bool) (elements kept : List α) :
    elements.filterAuxM f kept = ⟨(elements.filter fun a => (f a).value).reverse ++ kept,
      elements.flatMap fun a => (f a).log⟩ := by
  induction elements generalizing kept with
  | nil => rfl
  | cons a rest ih =>
    show (f a >>= fun keeps => rest.filterAuxM f (cond keeps (a :: kept) kept)) = _
    rw [bind_eq, ih]
    cases h : (f a).value <;> simp [h]

@[simp] theorem value_filterM (f : α → Logged τ Bool) (elements : List α) :
    (elements.filterM f).value = elements.filter fun a => (f a).value := by
  simp [List.filterM, filterAuxM_eq]

@[simp] theorem log_filterM (f : α → Logged τ Bool) (elements : List α) :
    (elements.filterM f).log = elements.flatMap fun a => (f a).log := by
  simp [List.filterM, filterAuxM_eq]

end Logged
end ODataQuery
