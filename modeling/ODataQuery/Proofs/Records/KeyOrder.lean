import ODataQuery.Proofs.Number.Order
import ODataQuery.Proofs.Records.Ordering
import ODataQuery.Proofs.Records.TypedValues

/-!
# Is the comparison of key values an order

Records are sorted by comparing their key values, and values that cannot be compared count as equal.
Whatever the values are, the answer is reversed when the records are swapped.  But equality of what
cannot be compared is not transitive: a double that is no number would be equal to all others.

* `Value.compare_swap`, `Selection.compareKeys_swap`: swapping reverses the answer, for any values.
* `Value.ranks_of_number`: the values of one type are ranked, as long as they are no such doubles.
* `Selection.compareKeys_order`: the comparison of key values is then an order of the records.
* `Selection.compareKeys_not_transitive`: it is none of a column that holds such a double.
-/

set_option autoImplicit false

namespace ODataQuery

variable {ρ : Type}

namespace Value

/-- Is the value a double that is no number. -/
def isNaN : Value → Bool
  | float x => x.isNaN
  | _ => false

/-- **Swapping two values reverses how they compare**, also if they do not. -/
theorem compare_swap (a b : Value) : b.compare a = (a.compare b).map Ordering.swap := by
  cases a with
  | null => cases b <;> rfl
  | bool x =>
    cases b with
    | bool y => exact congrArg some Std.OrientedOrd.eq_swap
    | _ => rfl
  | int i =>
    cases b with
    | int j => exact congrArg some Std.OrientedOrd.eq_swap
    | float y => exact compareFloat_swap _ _
    | _ => rfl
  | float x =>
    cases b with
    | int j => exact compareFloat_swap _ _
    | float y => exact compareFloat_swap _ _
    | _ => rfl
  | string s =>
    cases b with
    | string t => exact congrArg some Std.OrientedOrd.eq_swap
    | _ => rfl
  | dateTime t =>
    cases b with
    | dateTime u => exact congrArg some Std.OrientedOrd.eq_swap
    | _ => rfl

/-- **Values of one type are ranked**, with null below, if no double among them is no number. -/
theorem ranks_of_number {type : ScalarType} {values : List Value}
    (htype : ∀ value ∈ values, value.Fits (.scalar type))
    (hnumber : ∀ value ∈ values, value.isNaN = false) :
    Ranks (fun a b => (a.compare b).getD .eq) values := by
  have hscalar : ∀ value ∈ values, value.scalarType? = none ∨ value.scalarType? = some type := by
    intro value hvalue
    by_cases hnull : value = null
    · exact .inl (by rw [hnull]; rfl)
    · obtain ⟨scalar, hstatic, hscalar⟩ := (htype value hvalue).scalarType?_eq hnull
      cases hstatic
      exact .inr hscalar
  by_cases hdouble : type = .double
  · subst hdouble
    have hcompare (x y : {x : Float // x.isNaN = false}) : (float x.1).compare (float y.1)
        = some (compareOn (fun x : {x : Float // x.isNaN = false} => Number.rank x.1) x y) :=
      compareFloat_eq x.2 y.2
    refine ranks_of_payload _ (fun x : {x : Float // x.isNaN = false} => float x.1) (fun _ => rfl)
      hcompare fun value hvalue => ?_
    cases value with
    | null => exact .inl rfl
    | float x => exact .inr ⟨⟨x, hnumber _ hvalue⟩, rfl⟩
    | _ => rcases hscalar _ hvalue with h | h <;> cases h
  · exact Uniform.ranks ⟨type, hdouble, hscalar⟩

end Value

namespace Selection

theorem compareValues_swap (direction : Direction) (left right : Value) :
    compareValues direction right left = (compareValues direction left right).swap := by
  have hswap : (right.compare left).getD .eq = ((left.compare right).getD .eq).swap := by
    rw [Value.compare_swap left right]
    cases left.compare right <;> rfl
  cases direction with
  | asc => exact hswap
  | desc => exact congrArg Ordering.swap hswap

/-- **Swapping two rows of key values reverses how they compare.** -/
theorem compareKeys_swap (directions : List Direction) (lefts rights : List Value) :
    compareKeys directions rights lefts = (compareKeys directions lefts rights).swap := by
  induction directions generalizing lefts rights with
  | nil => cases lefts <;> cases rights <;> rfl
  | cons direction directions ih =>
    cases lefts with
    | nil => cases rights <;> rfl
    | cons left lefts =>
      cases rights with
      | nil => rfl
      | cons right rights =>
        rw [compareKeys, compareKeys, ih lefts rights, compareValues_swap direction left right,
          Ordering.swap_then]

/-- A key of an ordering that can be resolved is a property of the schema. -/
theorem exists_declared_of_resolveKeys {binding : Binding ρ} {keys : List SortKey}
    {resolved : List (ResolvedKey ρ)} (h : resolveKeys binding keys = .ok resolved) :
    ∀ key ∈ keys, ∃ declared, binding.schema.property? key.property = some declared := by
  induction keys generalizing resolved with
  | nil => nofun
  | cons key rest ih =>
    obtain ⟨read, resolvedRest, hread, hrest, -⟩ := resolveKeys_cons_eq_ok.1 h
    refine List.forall_mem_cons.2 ⟨Option.isSome_iff_exists.1 ?_, ih hrest⟩
    rw [← Binding.isSome_reader?, Binding.reader_eq_ok.1 hread, Option.isSome_some]

/-- The comparison of key values ranks records that conform to the schema, if no key value is a
double that is no number. -/
theorem ranks_compareKeys {binding : Binding ρ} {keys : List SortKey} {selection : Selection ρ}
    (hkeys : resolveKeys binding keys = .ok selection.keys) {records : List ρ}
    (hconforms : ∀ record ∈ records, binding.Conforms record)
    (hnumber : ∀ key ∈ keys, ∀ record ∈ records, (binding.read key.property record).isNaN = false) :
    Ranks (fun a b => compareKeys selection.directions (selection.keyValues a)
      (selection.keyValues b)) records := by
  have hranks : Ranks (binding.compareBy keys) records := by
    refine Binding.ranks_compareBy_of_keys fun key hkey => ?_
    obtain ⟨declared, hdeclared⟩ := exists_declared_of_resolveKeys hkeys key hkey
    have hfits : ∀ value ∈ records.map (binding.read key.property),
        value.Fits (.scalar declared.type) :=
      List.forall_mem_map.2 fun record hrecord => hconforms record hrecord _ _ hdeclared
    exact Binding.ranks_compareByKey_of_values
      (Value.ranks_of_number hfits (List.forall_mem_map.2 (hnumber key hkey)))
  exact hranks.congr fun a _ b _ => (compareKeys_keyValues hkeys a b).symm

/-- **The comparison that records are sorted by**: it is reflexive, it is reversed when the records
are swapped, and it is transitive as long as no key value is a double that is no number. -/
theorem compareKeys_order {binding : Binding ρ} {keys : List SortKey} {selection : Selection ρ}
    (hkeys : resolveKeys binding keys = .ok selection.keys) {a b c : ρ}
    (ha : binding.Conforms a) (hb : binding.Conforms b) (hc : binding.Conforms c) :
    let cmp (left right : ρ) : Ordering :=
      compareKeys selection.directions (selection.keyValues left) (selection.keyValues right)
    cmp a a = .eq ∧ cmp b a = (cmp a b).swap
      ∧ ((∀ key ∈ keys, ∀ record ∈ [a, b, c], (binding.read key.property record).isNaN = false) →
        (cmp a b).isLE → (cmp b c).isLE → (cmp a c).isLE) := by
  intro cmp
  have hswap (left right : ρ) : cmp right left = (cmp left right).swap := compareKeys_swap _ _ _
  refine ⟨?_, hswap a b, fun hnumber => ?_⟩
  · exact Ordering.eq_eq_of_eq_swap (hswap a a)
  · have hconforms : ∀ record ∈ [a, b, c], binding.Conforms record := by
      simp only [List.forall_mem_cons, List.not_mem_nil, false_imp_iff, implies_true]
      exact ⟨ha, hb, hc, trivial⟩
    exact (ranks_compareKeys hkeys hconforms hnumber).trans a (by simp) b (by simp) c (by simp)

/-- The two zeros and an infinity, and no value at all, by a descending and an ascending key. -/
theorem compareKeys_order_of_zeros :
    let binding : Binding (Float × Value) :=
      ⟨"Item", .ofList [("Price", ⟨{ type := .double }, fun row => .float row.1⟩),
        ("Rank", ⟨{ type := .integer }, fun row => row.2⟩)]⟩
    let keys : List SortKey := [⟨"Price", .desc⟩, ⟨"Rank", .asc⟩]
    let selection : Selection (Float × Value) :=
      ⟨none, [⟨"Price", fun row => .float row.1, .desc⟩, ⟨"Rank", fun row => row.2, .asc⟩], 0, none⟩
    let cmp (left right : Float × Value) : Ordering :=
      compareKeys selection.directions (selection.keyValues left) (selection.keyValues right)
    let rows : List (Float × Value) := [(1.0 / 0.0, .int 1), (0.0, .null), (-0.0, .int 2)]
    resolveKeys binding keys = .ok selection.keys ∧ (∀ row ∈ rows, binding.Conforms row)
      ∧ (cmp (1.0 / 0.0, .int 1) (0.0, .null)).isLE ∧ (cmp (0.0, .null) (-0.0, .int 2)).isLE
      ∧ (cmp (1.0 / 0.0, .int 1) (-0.0, .int 2)).isLE := by
  intro binding keys selection cmp rows
  have hkeys : resolveKeys binding keys = .ok selection.keys := by
    refine resolveKeys_cons_eq_ok.2 ⟨_, _, rfl, ?_, rfl⟩
    exact resolveKeys_cons_eq_ok.2 ⟨_, _, rfl, rfl, rfl⟩
  have hconforms : ∀ row ∈ rows, binding.Conforms row := by
    refine fun row hrow => Binding.conforms_of_bound ?_
    simp only [rows, List.mem_cons, List.not_mem_nil, or_false] at hrow
    rcases hrow with rfl | rfl | rfl <;> decide
  have hnumber : ∀ key ∈ keys, ∀ row ∈ rows, (binding.read key.property row).isNaN = false := by
    decide
  have hfirst : (cmp (1.0 / 0.0, .int 1) (0.0, .null)).isLE := by decide
  have hsecond : (cmp (0.0, .null) (-0.0, .int 2)).isLE := by decide
  refine ⟨hkeys, hconforms, hfirst, hsecond, ?_⟩
  exact (compareKeys_order hkeys (hconforms _ (by simp [rows])) (hconforms _ (by simp [rows]))
    (hconforms _ (by simp [rows]))).2.2 hnumber hfirst hsecond

/-- A double that is no number is equal to two numbers, which are not equal to each other. -/
theorem not_ranks_of_isNaN {binding : Binding ρ} {key : SortKey} {a b c : ρ} {x y z : Float}
    (ha : binding.read key.property a = .float x) (hb : binding.read key.property b = .float y)
    (hc : binding.read key.property c = .float z) (hnan : y.isNaN = true)
    (hless : Value.compareFloat x z = some .lt) : ¬ Ranks (binding.compareByKey key) [a, b, c] := by
  intro hranks
  have hab : binding.compareByKey key a b = .eq := by
    rw [Binding.compareByKey, ha, hb, compareValues_eq_eq, Value.compare,
      Value.compareFloat_of_isNaN (.inr hnan), Option.getD_none]
  have hbc : binding.compareByKey key b c = .eq := by
    rw [Binding.compareByKey, hb, hc, compareValues_eq_eq, Value.compare,
      Value.compareFloat_of_isNaN (.inl hnan), Option.getD_none]
  have hac : binding.compareByKey key a c = .eq := by
    rw [hranks.congr_left (by simp) (by simp) (by simp) hab, hbc]
  rw [Binding.compareByKey, ha, hc, compareValues_eq_eq, Value.compare, hless] at hac
  cases hac

/-- Three rows of which the second has no number: the first is not greater than the second and this
is not greater than the third, but the first is greater than the third; they are left unsorted. -/
theorem compareKeys_not_transitive :
    let binding : Binding Float := ⟨"Item", .ofList [("Price", ⟨{ type := .double }, .float⟩)]⟩
    let selection : Selection Float := ⟨none, [⟨"Price", .float, .asc⟩], 0, none⟩
    let cmp (left right : Float) : Ordering :=
      compareKeys selection.directions (selection.keyValues left) (selection.keyValues right)
    resolveKeys binding [⟨"Price", .asc⟩] = .ok selection.keys
      ∧ (∀ row : Float, binding.Conforms row)
      ∧ (cmp 1 (0 / 0)).isLE ∧ (cmp (0 / 0) 0).isLE ∧ cmp 1 0 = .gt
      ∧ selection.sort [1, 0 / 0, 0] = [1, 0 / 0, 0] := by
  intro binding selection cmp
  refine ⟨resolveKeys_cons_eq_ok.2 ⟨_, _, rfl, rfl, rfl⟩, fun row => ?_, ?_, ?_, ?_, ?_⟩
  · exact Binding.conforms_of_bound (List.forall_mem_singleton.2 (.inr rfl))
  · decide
  · decide
  · decide
  · decide

end Selection

end ODataQuery
