import ODataQuery.Proofs.Records.Resolution
import ODataQuery.Proofs.StableSort

/-!
# The ordering of records

Values of different types cannot all be compared with each other, and neither can doubles.  But
values of one other type are ordered, with null below them, and so are records by keys of such
values.

* `Value.Uniform`: the values are null or of one type, which is not that of doubles.
* `Binding.compareBy`: which of two records an ordering puts first.
* `Binding.ranks_compareBy`: it is an order of records whose values of each key are uniform.
* `Selection.sort_eq_arrange`: records are then sorted as a stable sort sorts them.
-/

set_option autoImplicit false

namespace ODataQuery

variable {ρ : Type}

/-! ## Values of one type -/

namespace Value

/-- The values are null or of one type, which is not that of doubles. -/
def Uniform (values : List Value) : Prop :=
  ∃ type ≠ ScalarType.double,
    ∀ value ∈ values, value.scalarType? = none ∨ value.scalarType? = some type

theorem Uniform.subset {values some : List Value} (h : Uniform values)
    (hsubset : some ⊆ values) : Uniform some := by
  obtain ⟨type, hdouble, htype⟩ := h
  exact ⟨type, hdouble, fun value hvalue => htype value (hsubset hvalue)⟩

@[simp] theorem compare_null_left (value : Value) :
    null.compare value = some (if value.isNull then .eq else .lt) := by
  cases value <;> rfl

@[simp] theorem compare_null_right (value : Value) :
    value.compare null = some (if value.isNull then .eq else .gt) := by
  cases value <;> rfl

/-- Null and the values of an ordered type are ranked. -/
theorem ranks_of_payload {κ : Type} (cmp : κ → κ → Ordering) [Std.TransCmp cmp]
    {values : List Value} (wrap : κ → Value) (hnull : ∀ x, (wrap x).isNull = false)
    (hcompare : ∀ x y, (wrap x).compare (wrap y) = some (cmp x y))
    (hvalues : ∀ value ∈ values, value = null ∨ ∃ x, value = wrap x) :
    Ranks (fun a b => (a.compare b).getD .eq) values where
  swap a ha b hb := by
    rcases hvalues a ha with rfl | ⟨x, rfl⟩ <;> rcases hvalues b hb with rfl | ⟨y, rfl⟩
    · rfl
    · simp [hnull]
    · simp [hnull]
    · rw [hcompare, hcompare]
      show cmp y x = (cmp x y).swap
      exact Std.OrientedCmp.eq_swap
  trans a ha b hb c hc := by
    rcases hvalues a ha with rfl | ⟨x, rfl⟩
    · intro _ _
      rw [compare_null_left]
      cases c.isNull <;> rfl
    · rcases hvalues b hb with rfl | ⟨y, rfl⟩
      · simp [hnull]
      · rcases hvalues c hc with rfl | ⟨z, rfl⟩
        · simp [hnull]
        · rw [hcompare, hcompare, hcompare]
          show (cmp x y).isLE → (cmp y z).isLE → (cmp x z).isLE
          exact Std.TransCmp.isLE_trans

/-- **Values of one type are ranked**, by their numbers, characters or fields, with null below. -/
theorem Uniform.ranks {values : List Value} (h : Uniform values) :
    Ranks (fun a b => (a.compare b).getD .eq) values := by
  obtain ⟨type, hdouble, htype⟩ := h
  have hwrapped {κ : Type} (wrap : κ → Value)
      (hwrap : ∀ value, value.scalarType? = some type → ∃ x, value = wrap x) :
      ∀ value ∈ values, value = null ∨ ∃ x, value = wrap x := by
    intro value hvalue
    rcases htype value hvalue with hnone | hsome
    · left
      cases value <;> first | rfl | cases hnone
    · exact .inr (hwrap value hsome)
  cases type with
  | boolean =>
    refine ranks_of_payload Ord.compare bool (fun _ => rfl) (fun _ _ => rfl)
      (hwrapped bool fun value h => ?_)
    cases value <;> first | exact ⟨_, rfl⟩ | cases h
  | integer =>
    refine ranks_of_payload (compareOn Int64.toInt) int (fun _ => rfl) (fun _ _ => rfl)
      (hwrapped int fun value h => ?_)
    cases value <;> first | exact ⟨_, rfl⟩ | cases h
  | double => exact absurd rfl hdouble
  | string =>
    refine ranks_of_payload Ord.compare string (fun _ => rfl) (fun _ _ => rfl)
      (hwrapped string fun value h => ?_)
    cases value <;> first | exact ⟨_, rfl⟩ | cases h
  | dateTime =>
    refine ranks_of_payload (compareOn DateTime.fields) dateTime (fun _ => rfl) (fun _ _ => rfl)
      (hwrapped dateTime fun value h => ?_)
    cases value <;> first | exact ⟨_, rfl⟩ | cases h

end Value

/-! ## Records by keys -/

/-- Values are equal in one direction if they are in the other. -/
theorem Selection.compareValues_eq_eq {direction : Direction} {left right : Value} :
    Selection.compareValues direction left right = .eq ↔ (left.compare right).getD .eq = .eq := by
  cases direction with
  | asc => rfl
  | desc => exact Ordering.swap_eq_eq

namespace Binding

/-- What a record has as the value of a property; a property that is not bound is null. -/
def read (binding : Binding ρ) (property : String) (record : ρ) : Value :=
  match binding.reader? property with
  | some read => read record
  | none => .null

theorem read_of_reader {binding : Binding ρ} {property : String} {read : ρ → Value}
    (h : binding.reader property = .ok read) : binding.read property = read := by
  funext record
  rw [Binding.read, reader_eq_ok.1 h]

/-- Which of two records comes first by one key. -/
def compareByKey (binding : Binding ρ) (key : SortKey) (a b : ρ) : Ordering :=
  Selection.compareValues key.direction (binding.read key.property a) (binding.read key.property b)

/-- Which of two records an ordering puts first: the first key that tells them apart decides. -/
def compareBy (binding : Binding ρ) : List SortKey → ρ → ρ → Ordering
  | [] => fun _ _ => .eq
  | key :: rest => compareLex (binding.compareByKey key) (binding.compareBy rest)

theorem compareBy_append (binding : Binding ρ) (keys more : List SortKey) :
    binding.compareBy (keys ++ more)
      = compareLex (binding.compareBy keys) (binding.compareBy more) := by
  induction keys with
  | nil => rfl
  | cons key rest ih =>
    funext a b
    rw [List.cons_append, compareBy, compareBy, ih, compareLex, compareLex, compareLex, compareLex,
      Ordering.then_assoc]

/-- The values that the records have for each key of an ordering are null or of one type, which is
not that of doubles. -/
def Sortable (binding : Binding ρ) (keys : List SortKey) (records : List ρ) : Prop :=
  ∀ key ∈ keys, Value.Uniform (records.map (binding.read key.property))

theorem Sortable.subset {binding : Binding ρ} {keys : List SortKey} {records some : List ρ}
    (h : binding.Sortable keys records) (hsubset : some ⊆ records) :
    binding.Sortable keys some :=
  fun key hkey => (h key hkey).subset (List.map_subset _ hsubset)

theorem Sortable.mono {binding : Binding ρ} {keys some : List SortKey} {records : List ρ}
    (h : binding.Sortable keys records) (hsubset : some ⊆ keys) : binding.Sortable some records :=
  fun key hkey => h key (hsubset hkey)

/-- One key ranks records with values that are ranked. -/
theorem ranks_compareByKey_of_values {binding : Binding ρ} {key : SortKey} {records : List ρ}
    (h : Ranks (fun a b => (a.compare b).getD .eq) (records.map (binding.read key.property))) :
    Ranks (binding.compareByKey key) records := by
  have hvalues := Ranks.map_iff.1 h
  cases hdirection : key.direction with
  | asc => exact hvalues.congr fun a _ b _ => by rw [compareByKey, hdirection]; rfl
  | desc => exact hvalues.reverse.congr fun a _ b _ => by rw [compareByKey, hdirection]; rfl

/-- An ordering ranks records that each of its keys ranks. -/
theorem ranks_compareBy_of_keys {binding : Binding ρ} {keys : List SortKey} {records : List ρ}
    (h : ∀ key ∈ keys, Ranks (binding.compareByKey key) records) :
    Ranks (binding.compareBy keys) records := by
  induction keys with
  | nil => exact ⟨fun _ _ _ _ => rfl, fun _ _ _ _ _ _ _ _ => rfl⟩
  | cons key rest ih =>
    exact (h key List.mem_cons_self).lex
      (ih fun other hother => h other (List.mem_cons_of_mem key hother))

/-- One key ranks records with uniform values. -/
theorem ranks_compareByKey {binding : Binding ρ} {key : SortKey} {records : List ρ}
    (h : Value.Uniform (records.map (binding.read key.property))) :
    Ranks (binding.compareByKey key) records :=
  ranks_compareByKey_of_values h.ranks

/-- **An ordering ranks records** whose values for each key are uniform. -/
theorem ranks_compareBy {binding : Binding ρ} {keys : List SortKey} {records : List ρ}
    (h : binding.Sortable keys records) : Ranks (binding.compareBy keys) records :=
  ranks_compareBy_of_keys fun key hkey => ranks_compareByKey (h key hkey)

end Binding

/-! ## Sorting records -/

namespace Selection

/-- What the comparison of the key values of two records says is what the ordering says of them. -/
theorem compareKeys_of_resolveKeys {binding : Binding ρ} {keys : List SortKey}
    {resolved : List (ResolvedKey ρ)} (h : resolveKeys binding keys = .ok resolved) (a b : ρ) :
    compareKeys (resolved.map ResolvedKey.direction) (resolved.map fun key => key.read a)
      (resolved.map fun key => key.read b) = binding.compareBy keys a b := by
  induction keys generalizing resolved with
  | nil =>
    rw [resolveKeys] at h
    cases h
    rfl
  | cons key rest ih =>
    obtain ⟨read, resolvedRest, hread, hrest, rfl⟩ := resolveKeys_cons_eq_ok.1 h
    rw [List.map_cons, List.map_cons, List.map_cons, compareKeys, ih hrest, Binding.compareBy,
      compareLex, Binding.compareByKey, Binding.read_of_reader hread]

/-- The key values of two records compare as the ordering says. -/
theorem compareKeys_keyValues {binding : Binding ρ} {keys : List SortKey} {selection : Selection ρ}
    (h : resolveKeys binding keys = .ok selection.keys) (a b : ρ) :
    compareKeys selection.directions (selection.keyValues a) (selection.keyValues b)
      = binding.compareBy keys a b := by
  rw [keyValues_eq, keyValues_eq]
  exact compareKeys_of_resolveKeys h a b

/-- **Records are sorted as a stable sort sorts them**: the values of their keys are worked out once
beforehand, which makes no difference. -/
theorem sort_eq_arrange {binding : Binding ρ} {keys : List SortKey} {selection : Selection ρ}
    (h : resolveKeys binding keys = .ok selection.keys) {records : List ρ}
    (hsortable : binding.Sortable keys records) :
    selection.sort records = arrange (binding.compareBy keys) records := by
  let cmp (left right : List Value × ρ) := compareKeys selection.directions left.1 right.1
  let keyed (record : ρ) := (selection.keyValues record, record)
  have hcompare : ∀ a b, binding.compareBy keys a b = cmp (keyed a) (keyed b) := fun a b =>
    (compareKeys_keyValues h a b).symm
  have hranks : Ranks cmp (records.map keyed) :=
    Ranks.map_iff.2 ((Binding.ranks_compareBy hsortable).congr fun a _ b _ => hcompare a b)
  calc selection.sort records
      = (arrange cmp (records.map keyed)).map Prod.snd := by
        rw [sort_eq, ← StableSort.sort_eq_arrange hranks]
        rfl
    _ = ((arrange (binding.compareBy keys) records).map keyed).map Prod.snd := by
        rw [map_arrange fun a _ b _ => hcompare a b]
    _ = arrange (binding.compareBy keys) records := by
        rw [List.map_map]
        exact List.map_id _

end Selection

end ODataQuery
