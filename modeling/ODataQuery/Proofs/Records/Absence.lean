import ODataQuery.Proofs.Records.TypedValues

/-!
# Absent values decide nothing

A record may lack the value of a property.  What a filter says of such a record is what it says of
every record that has more values and otherwise the same ones, or it is unknown: the answer cannot
turn around when a missing value is filled in.  The exception are comparisons with a literal null by
equality, which ask for absence itself.

* `Value.Approximates`: a value is unknown or the other one; one lemma for each operation says that
  it carries this over from its operands to its result.  Connectives do so because they are
  monotone, all other operations because a null operand makes them null.
* `Binding.Lacks`: a record has no other values than another one.
* `Expression.AsksForNoNull`: no comparison asks for absence.
* `Node.evaluate_approximates`: the value on a record that lacks some approximates the value on the
  record that has them.
* `Node.evaluate_of_absent_values`: so no decision is turned around by values that are absent.
-/

set_option autoImplicit false

namespace ODataQuery

variable {ρ : Type}

/-! ## Values -/

namespace Value

/-- The value is unknown, or it is the other one. -/
def Approximates (value other : Value) : Prop :=
  value = null ∨ value = other

theorem Approximates.refl (value : Value) : value.Approximates value :=
  .inr rfl

theorem null_approximates (other : Value) : null.Approximates other :=
  .inl rfl

/-- A truth value that is known stays what it is. -/
theorem Approximates.truth? {value other : Value} (h : value.Approximates other) :
    value.truth? = none ∨ value.truth? = other.truth? := by
  rcases h with rfl | rfl
  · exact .inl rfl
  · exact .inr rfl

theorem Approximates.negation {operand other : Value} (h : operand.Approximates other) :
    operand.negation.Approximates other.negation := by
  rcases h with rfl | rfl
  · exact null_approximates _
  · exact .refl _

/-- Where an operand is unknown, so is a connective, or the operand does not matter to it. -/
theorem connect_of_unknown (c : Connective) (left right : Option Bool) :
    connect c none none = none
      ∧ (connect c none right = none ∨ connect c none right = connect c left right)
      ∧ (connect c left none = none ∨ connect c left none = connect c left right) := by
  rcases left with _ | _ | _ <;> rcases right with _ | _ | _ <;> cases c <;> decide

/-- **Connectives are monotone**: an operand that becomes known changes the result only where it was
unknown. -/
theorem connect_approximates (c : Connective) {left left' right right' : Value}
    (hleft : left.Approximates left') (hright : right.Approximates right') :
    (ofTruth (connect c left.truth? right.truth?)).Approximates
      (ofTruth (connect c left'.truth? right'.truth?)) := by
  obtain ⟨hneither, hrightOnly, hleftOnly⟩ := connect_of_unknown c left'.truth? right'.truth?
  have hresult : connect c left.truth? right.truth? = none
      ∨ connect c left.truth? right.truth? = connect c left'.truth? right'.truth? := by
    rcases hleft.truth? with hl | hl <;> rcases hright.truth? with hr | hr <;> rw [hl, hr]
    · exact .inl hneither
    · exact hrightOnly
    · exact hleftOnly
    · exact .inr rfl
  rcases hresult with h | h <;> rw [h]
  · exact null_approximates _
  · exact .refl _

/-- An operation that null makes null carries approximation over to its result. -/
theorem approximates_of_strict {f : Value → Value → Value} (hfirst : ∀ value, f null value = null)
    (hsecond : ∀ value, f value null = null) {left left' right right' : Value}
    (hleft : left.Approximates left') (hright : right.Approximates right') :
    (f left right).Approximates (f left' right') := by
  rcases hleft with rfl | rfl
  · rw [hfirst]
    exact null_approximates _
  · rcases hright with rfl | rfl
    · rw [hsecond]
      exact null_approximates _
    · exact .refl _

theorem comparison_null_left (c : Comparison) (right : Value) : comparison c null right = null := by
  rw [comparison]
  rfl

theorem comparison_null_right (c : Comparison) (left : Value) : comparison c left null = null := by
  rw [comparison]
  cases left <;> rfl

theorem arithmetic_null_left (a : Arithmetic) (right : Value) : arithmetic a null right = null := by
  cases right <;> rfl

theorem arithmetic_null_right (a : Arithmetic) (left : Value) : arithmetic a left null = null := by
  cases left <;> rfl

theorem eq_of_approximates {args args' : List Value} (h : List.Forall₂ Approximates args args')
    (hnull : null ∉ args) : args = args' := by
  induction h with
  | nil => rfl
  | @cons arg arg' args args' harg _ ih =>
    rw [List.mem_cons, not_or] at hnull
    rcases harg with rfl | rfl
    · exact absurd rfl hnull.1
    · rw [ih hnull.2]

theorem call_approximates (function : Function) {args args' : List Value}
    (h : List.Forall₂ Approximates args args') :
    (call function args).Approximates (call function args') := by
  by_cases hnull : null ∈ args
  · rw [call_eq_null_of_mem function hnull]
    exact null_approximates _
  · rw [eq_of_approximates h hnull]
    exact .refl _

end Value

/-! ## Records that lack values -/

/-- Every property of the first record is null or what it is in the second. -/
def Binding.Lacks (binding : Binding ρ) (absent present : ρ) : Prop :=
  ∀ name, (binding.read name absent).Approximates (binding.read name present)

/-- It is enough to look at what is bound. -/
theorem Binding.lacks_of_bound {binding : Binding ρ} {absent present : ρ}
    (h : ∀ entry ∈ binding.properties.entries,
      entry.2.read absent = .null ∨ entry.2.read absent = entry.2.read present) :
    binding.Lacks absent present := by
  intro name
  rw [read, read, reader?]
  cases hbound : binding.properties.get? name with
  | none => exact .refl _
  | some bound => exact h _ (Dictionary.mem_entries_of_get? hbound)

namespace Expression

/-- No comparison by equality in the expression has a literal null for an operand. -/
def AsksForNoNull (e : Expression) : Prop :=
  ∀ left c right, .binary left (.comparison c) right ∈ e.parts → c.isEquality = true →
    left ≠ .literal .null ∧ right ≠ .literal .null

theorem AsksForNoNull.of_subset {e part : Expression} (h : e.AsksForNoNull)
    (hpart : part.parts ⊆ e.parts) : part.AsksForNoNull :=
  fun left c right hmem => h left c right (hpart hmem)

/-- A comparison that does not ask for null is no null test. -/
theorem AsksForNoNull.nullTest?_eq_none {left right : Expression} {c : Comparison}
    (h : (binary left (.comparison c) right).AsksForNoNull) : c.nullTest? left right = none := by
  by_cases hequality : c.isEquality = true
  · obtain ⟨hleft, hright⟩ := h left c right (self_mem_parts _) hequality
    exact c.nullTest?_eq_none hleft hright
  · cases c <;> first | rfl | exact absurd rfl hequality

end Expression

/-! ## Evaluation -/

namespace Node

variable {binding : Binding ρ} {absent present : ρ}

/-- Arguments that each approximate others do so together. -/
theorem evaluateArgs_approximates {args : List Expression} {nodes : List (Node ρ)}
    (hnodes : List.Forall₂ (fun arg node => resolve binding arg = .ok node) args nodes)
    (heach : ∀ arg ∈ args, ∀ node, resolve binding arg = .ok node →
      (node.evaluate absent).Approximates (node.evaluate present)) :
    List.Forall₂ Value.Approximates (evaluateArgs absent nodes) (evaluateArgs present nodes) := by
  induction hnodes with
  | nil => exact .nil
  | cons hnode _ ih =>
    rw [evaluateArgs_cons, evaluateArgs_cons]
    refine .cons (heach _ List.mem_cons_self _ hnode) (ih fun arg harg => ?_)
    exact heach arg (List.mem_cons_of_mem _ harg)

/-- **The value on a record that lacks some values approximates the value on one that has them.** -/
theorem evaluate_approximates (hlacks : binding.Lacks absent present) {e : Expression}
    (hasks : e.AsksForNoNull) {node : Node ρ} (hnode : resolve binding e = .ok node) :
    (node.evaluate absent).Approximates (node.evaluate present) := by
  induction e using Expression.induction generalizing node with
  | literal value =>
    obtain rfl := resolve_literal_eq_ok.1 hnode
    rw [evaluate_literal, evaluate_literal]
    exact .refl value
  | property name =>
    obtain ⟨read, hread, rfl⟩ := resolve_property_eq_ok.1 hnode
    rw [evaluate_property, evaluate_property, ← Binding.read_of_reader hread]
    exact hlacks name
  | not operand ih =>
    obtain ⟨operandNode, hoperandNode, rfl⟩ := resolve_not_eq_ok.1 hnode
    rw [evaluate_not, evaluate_not]
    exact (ih (hasks.of_subset (Expression.operand_parts_subset operand)) hoperandNode).negation
  | binary left operator right ihleft ihright =>
    have hleftAsks := hasks.of_subset (Expression.left_parts_subset left operator right)
    have hrightAsks := hasks.of_subset (Expression.right_parts_subset left operator right)
    cases operator with
    | comparison c =>
      obtain ⟨leftNode, rightNode, hleftNode, hrightNode, rfl⟩ :=
        (resolve_comparison_of_nullTest? hasks.nullTest?_eq_none).1 hnode
      rw [evaluate_comparison, evaluate_comparison]
      exact Value.approximates_of_strict (Value.comparison_null_left c)
        (Value.comparison_null_right c) (ihleft hleftAsks hleftNode) (ihright hrightAsks hrightNode)
    | connective c =>
      obtain ⟨leftNode, rightNode, hleftNode, hrightNode, rfl⟩ :=
        resolve_connective_eq_ok.1 hnode
      rw [evaluate_connective, evaluate_connective]
      exact Value.connect_approximates c (ihleft hleftAsks hleftNode)
        (ihright hrightAsks hrightNode)
    | arithmetic a =>
      obtain ⟨leftNode, rightNode, hleftNode, hrightNode, rfl⟩ :=
        resolve_arithmetic_eq_ok.1 hnode
      rw [evaluate_arithmetic, evaluate_arithmetic]
      exact Value.approximates_of_strict (Value.arithmetic_null_left a)
        (Value.arithmetic_null_right a) (ihleft hleftAsks hleftNode) (ihright hrightAsks hrightNode)
  | call function args ih =>
    obtain ⟨nodes, hnodes, rfl⟩ := resolve_call_eq_ok.1 hnode
    rw [evaluate_call, evaluate_call]
    exact Value.call_approximates function <| evaluateArgs_approximates hnodes
      fun arg harg _ hargNode =>
        ih arg harg (hasks.of_subset (Expression.arg_parts_subset function harg)) hargNode

/-- A filter that holds for a record holds for every record that has more values. -/
theorem selects_of_lacks (hlacks : binding.Lacks absent present) {e : Expression}
    (hasks : e.AsksForNoNull) (hselects : binding.selects e absent = true) :
    binding.selects e present = true := by
  rw [Binding.selects] at hselects ⊢
  cases hnode : resolve binding e with
  | error error => rw [hnode] at hselects; cases hselects
  | ok node =>
    rw [hnode] at hselects
    have hknown : node.verdict absent = some true := by simpa [selects_eq] using hselects
    rcases (evaluate_approximates hlacks hasks hnode).truth? with hnone | hsame
    · rw [verdict, hnone] at hknown
      cases hknown
    · show (node.verdict present == some true) = true
      rw [verdict, ← hsame, ← verdict, hknown]
      rfl

/-- A negation asks for null where its operand does. -/
theorem asksForNoNull_not {e : Expression} (h : e.AsksForNoNull) : e.not.AsksForNoNull := by
  intro left c right hmem
  rcases Expression.mem_parts_not.1 hmem with heq | hmem
  · cases heq
  · exact h left c right hmem

/-- **Absent values turn no decision around.**  Let a filter ask nowhere whether a value is null.  On
a record whose properties are each null or the same as in another record, its value is null or the
same as on the other; so it holds for the other record if it holds for this one, and it is false of
the other if it is false of this one. -/
theorem evaluate_of_absent_values (binding : Binding ρ) {filter : Expression}
    (hasks : filter.AsksForNoNull) {absent present : ρ} (hlacks : binding.Lacks absent present) :
    (∀ node, resolve binding filter = .ok node →
      node.evaluate absent = .null ∨ node.evaluate absent = node.evaluate present)
      ∧ (binding.selects filter absent = true → binding.selects filter present = true)
      ∧ (binding.selects filter.not absent = true → binding.selects filter.not present = true) :=
  ⟨fun _ hnode => evaluate_approximates hlacks hasks hnode,
    selects_of_lacks hlacks hasks,
    selects_of_lacks hlacks (asksForNoNull_not hasks)⟩

/-- The rule for a filter that excludes a record although one of the properties that it compares is
absent: the other operand of the conjunction decides. -/
theorem evaluate_of_absent_values_of_conjunction :
    let binding : Binding (Option Int64 × Option String) := ⟨"Note", .ofList
      [("Count", ⟨{ type := .integer }, fun note => note.1.elim .null .int⟩),
        ("Text", ⟨{ type := .string }, fun note => note.2.elim .null .string⟩)]⟩
    let filter : Expression :=
      .binary
        (.binary (.binary (.property "Count") (.arithmetic .add) (.literal (.int 1)))
          (.comparison .gt) (.literal .null))
        (.connective .and)
        (.not (.call (.test .endsWith) [.property "Text", .literal (.string "!")]))
    (∃ node, resolve binding filter = .ok node
        ∧ (node.evaluate (none, some "no!") = .null
          ∨ node.evaluate (none, some "no!") = node.evaluate (some 7, some "no!")))
      ∧ binding.selects filter.not (none, some "no!") = true
      ∧ binding.selects filter.not (some 7, some "no!") = true := by
  intro binding filter
  have hasks : filter.AsksForNoNull := by
    intro left c right hmem
    obtain ⟨-, rfl, -⟩ : left = .binary (.property "Count") (.arithmetic .add) (.literal (.int 1))
        ∧ c = .gt ∧ right = .literal .null := by
      simpa [filter, Expression.parts, Expression.partsOfArgs] using hmem
    intro hequality
    cases hequality
  have hlacks : binding.Lacks (none, some "no!") (some 7, some "no!") :=
    Binding.lacks_of_bound (by decide)
  have hselects : binding.selects filter.not (none, some "no!") = true := rfl
  obtain ⟨node, hnode⟩ : ∃ node, resolve binding filter = .ok node := ⟨_, rfl⟩
  obtain ⟨hvalue, -, hnot⟩ := evaluate_of_absent_values binding hasks hlacks
  exact ⟨⟨node, hnode, hvalue node hnode⟩, hselects, hnot hselects⟩

end Node

end ODataQuery
