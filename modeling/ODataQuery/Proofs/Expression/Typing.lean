import Mathlib.Data.List.Forall2
import ODataQuery.Expression.Typing
import ODataQuery.Proofs.Expression.Parts
import ODataQuery.Proofs.Outcomes

/-!
# What a typed expression is made of

The type of a tree comes from the types of its operands by one rule for each kind of node.  Every
later argument that goes through a typed tree takes it apart with these laws, one for each
constructor.

* `Expression.infer_property_eq_ok`, `infer_not_eq_ok`, `infer_binary_eq_ok`, `infer_call_eq_ok`: a
  node has a type when its operands have types that fit.
* `Expression.inferArgs_eq_ok`: the arguments of a call are typed one by one.
* `Function.resultType_eq_ok`: what a function asks of its arguments.
* `Function.length_eq_arity`: a call that has a type has as many arguments as the function takes.
* `Expression.isSome_property_of_infer`: a typed expression names properties of the schema only.
-/

set_option autoImplicit false

namespace ODataQuery

/-- What is matched one by one is matched with something. -/
theorem exists_related_of_mem {α β : Type} {r : α → β → Prop} {xs : List α} {ys : List β}
    (h : List.Forall₂ r xs ys) {x : α} (hmem : x ∈ xs) : ∃ y ∈ ys, r x y := by
  induction h with
  | nil => cases hmem
  | cons hfirst _ ih =>
    rcases List.mem_cons.1 hmem with rfl | hmem
    · exact ⟨_, List.mem_cons_self, hfirst⟩
    · obtain ⟨y, hy, hrelated⟩ := ih hmem
      exact ⟨y, List.mem_cons_of_mem _ hy, hrelated⟩

theorem Schema.lookup_eq_ok {schema : Schema} {name : String} {declared : Property} :
    schema.lookup name = .ok declared ↔ schema.property? name = some declared := by
  rw [lookup]
  cases schema.property? name <;> simp

theorem StaticType.ofNot_eq_ok {operand type : StaticType} :
    StaticType.ofNot operand = .ok type ↔ operand = .boolean ∧ type = .boolean := by
  rw [StaticType.ofNot]
  split
  · rename_i hoperand
    simp [hoperand, eq_comm]
  · rename_i hoperand
    simp [hoperand]

attribute [local simp] Operator.resultType

/-- The operands of a connective are conditions, and so is the connective. -/
theorem Operator.resultType_connective_eq_ok {c : Connective} {left right type : StaticType} :
    (Operator.connective c).resultType left right = .ok type
      ↔ left = .boolean ∧ right = .boolean ∧ type = .boolean := by
  rw [Operator.resultType]
  rcases left with _ | left <;> rcases right with _ | right
  · simp [Connective.resultType?, StaticType.boolean]
  · simp [Connective.resultType?, StaticType.boolean]
  · cases left <;> simp [Connective.resultType?, StaticType.boolean]
  · cases left <;> cases right <;>
      simp [Connective.resultType?, StaticType.boolean, eq_comm]

/-- What can be compared gives a condition.  Types other than those of null and of doubles have to be
the same for it. -/
theorem Operator.resultType_comparison_eq_ok {c : Comparison} {left right type : StaticType}
    (h : (Operator.comparison c).resultType left right = .ok type) :
    type = .boolean
      ∧ ∀ leftScalar rightScalar, left = .scalar leftScalar → right = .scalar rightScalar →
        leftScalar ≠ .double → rightScalar ≠ .double → leftScalar = rightScalar := by
  rw [Operator.resultType] at h
  rcases left with _ | left <;> rcases right with _ | right
  · cases h
    exact ⟨rfl, nofun⟩
  · cases h
    exact ⟨rfl, nofun⟩
  · cases h
    exact ⟨rfl, nofun⟩
  · simp only [Comparison.resultType?] at h
    split at h
    · rename_i hsome
      cases h
      split at hsome
      · rename_i hfit
        cases hsome
        refine ⟨rfl, ?_⟩
        rintro _ _ ⟨⟩ ⟨⟩ hleft hright
        rcases hfit.1 with hsame | ⟨hleftNumeric, hrightNumeric⟩
        · exact hsame
        · cases left <;> cases right <;> first | rfl | contradiction
      · cases hsome
    · cases h

theorem Operator.resultType_arithmetic_eq_ok {a : Arithmetic} {left right type : StaticType} :
    (Operator.arithmetic a).resultType left right = .ok type
      ↔ Arithmetic.resultType? left right = some type := by
  simp only [Operator.resultType]
  cases Arithmetic.resultType? left right <;> simp

namespace Function

/-- A call that has a type has as many arguments as the function takes. -/
theorem length_eq_arity {function : Function} {args : List StaticType} {type : StaticType}
    (h : function.resultType args = .ok type) : args.length = function.arity := by
  rw [resultType] at h
  split at h
  · cases h
  · rename_i hlength
    exact not_not.1 hlength

/-- No argument is of a kind that is not asked for.  Null is of every kind. -/
theorem misfit?_eq_none_iff {kind : ArgumentKind} {types : List StaticType} :
    misfit? kind types = none ↔ ∀ type, .scalar type ∈ types → kind.accepts type = true := by
  induction types with
  | nil => simp [misfit?]
  | cons first rest ih =>
    cases first with
    | null => simp [misfit?, ih]
    | scalar type =>
      rw [misfit?]
      split
      · rename_i haccepts
        simp [ih, haccepts]
      · rename_i hrefuses
        simp [hrefuses]

/-- A call has a type when its arguments are as many and of the kind that the function asks for. -/
theorem resultType_eq_ok {function : Function} {args : List StaticType} {type : StaticType} :
    function.resultType args = .ok type
      ↔ args.length = function.arity
        ∧ (∀ type, .scalar type ∈ args → function.argumentKind.accepts type = true)
        ∧ type = function.typeOfFitting args := by
  rw [resultType, ← misfit?_eq_none_iff]
  by_cases hlength : args.length = function.arity
  · rw [if_neg (not_not.2 hlength)]
    cases misfit? function.argumentKind args with
    | none => simp [hlength, eq_comm]
    | some misfit => simp
  · rw [if_pos hlength]
    simp [hlength]

theorem arity_pos (function : Function) : 0 < function.arity := by
  cases function <;> simp [arity]

end Function

namespace Expression

variable {schema : Schema}

attribute [local simp] infer

theorem infer_literal (value : Value) :
    (literal value).infer schema = .ok (.ofValue value) := by
  rw [infer]

theorem infer_property_eq_ok {name : String} {type : StaticType} :
    (property name).infer schema = .ok type
      ↔ ∃ declared, schema.property? name = some declared ∧ type = .scalar declared.type := by
  rw [infer, Schema.lookup]
  cases schema.property? name <;> simp [eq_comm]

theorem infer_not_eq_ok {operand : Expression} {type : StaticType} :
    operand.not.infer schema = .ok type
      ↔ operand.infer schema = .ok .boolean ∧ type = .boolean := by
  rw [infer, bind_eq_ok]
  simp only [mapError_eq_ok, StaticType.ofNot_eq_ok]
  constructor
  · rintro ⟨_, hoperand, rfl, rfl⟩
    exact ⟨hoperand, rfl⟩
  · rintro ⟨hoperand, rfl⟩
    exact ⟨_, hoperand, rfl, rfl⟩

theorem infer_binary_eq_ok {left right : Expression} {operator : Operator} {type : StaticType} :
    (binary left operator right).infer schema = .ok type
      ↔ ∃ leftType rightType, left.infer schema = .ok leftType
        ∧ right.infer schema = .ok rightType
        ∧ operator.resultType leftType rightType = .ok type := by
  rw [infer, bind_eq_ok]
  simp only [bind_eq_ok, mapError_eq_ok]
  constructor
  · rintro ⟨leftType, hleft, rightType, hright, htype⟩
    exact ⟨leftType, rightType, hleft, hright, htype⟩
  · rintro ⟨leftType, rightType, hleft, hright, htype⟩
    exact ⟨leftType, hleft, rightType, hright, htype⟩

theorem infer_call_eq_ok {function : Function} {args : List Expression} {type : StaticType} :
    (call function args).infer schema = .ok type
      ↔ ∃ types, inferArgs schema args = .ok types ∧ function.resultType types = .ok type := by
  rw [infer, bind_eq_ok]
  simp only [mapError_eq_ok]

/-- The arguments of a call are typed one by one. -/
theorem inferArgs_eq_ok {args : List Expression} {types : List StaticType} :
    inferArgs schema args = .ok types
      ↔ List.Forall₂ (fun arg type => arg.infer schema = .ok type) args types := by
  induction args generalizing types with
  | nil =>
    rw [inferArgs, List.forall₂_nil_left_iff]
    simp [eq_comm]
  | cons arg rest ih =>
    rw [inferArgs, List.forall₂_cons_left_iff]
    simp only [bind_eq_ok, ih, Except.ok.injEq]
    constructor
    · rintro ⟨type, htype, types, htypes, rfl⟩
      exact ⟨type, types, htype, htypes, rfl⟩
    · rintro ⟨type, types, htype, htypes, rfl⟩
      exact ⟨type, htype, types, htypes, rfl⟩

theorem checkPredicate_eq_ok {e : Expression} :
    e.checkPredicate schema = .ok () ↔ e.infer schema = .ok .boolean := by
  rw [checkPredicate, bind_eq_ok]
  constructor
  · rintro ⟨type, htype, hboolean⟩
    split at hboolean
    · rename_i heq
      rw [htype, heq]
    · cases hboolean
  · intro h
    exact ⟨.boolean, h, by simp⟩

/-- A call that has a type has as many arguments as its function takes. -/
theorem length_eq_arity_of_infer {function : Function} {args : List Expression}
    {type : StaticType} (h : (call function args).infer schema = .ok type) :
    args.length = function.arity := by
  obtain ⟨types, hargs, htype⟩ := infer_call_eq_ok.1 h
  rw [(inferArgs_eq_ok.1 hargs).length_eq, Function.length_eq_arity htype]

/-- Every argument of a list that has types has one of them. -/
theorem infer_arg_of_inferArgs {args : List Expression} {types : List StaticType}
    (h : inferArgs schema args = .ok types) {arg : Expression} (hmem : arg ∈ args) :
    ∃ type ∈ types, arg.infer schema = .ok type :=
  exists_related_of_mem (inferArgs_eq_ok.1 h) hmem

/-- Every argument of a call that has a type has one itself. -/
theorem infer_arg_of_infer_call {function : Function} {args : List Expression} {type : StaticType}
    (h : (call function args).infer schema = .ok type) {arg : Expression} (hmem : arg ∈ args) :
    ∃ argType, arg.infer schema = .ok argType := by
  obtain ⟨types, hargs, -⟩ := infer_call_eq_ok.1 h
  obtain ⟨argType, -, harg⟩ := infer_arg_of_inferArgs hargs hmem
  exact ⟨argType, harg⟩

/-- **A typed expression names properties of the schema only.** -/
theorem isSome_property_of_infer {e : Expression} {type : StaticType}
    (h : e.infer schema = .ok type) {name : String} (hname : property name ∈ e.parts) :
    (schema.property? name).isSome := by
  induction e using Expression.induction generalizing type with
  | literal value =>
    rw [parts, List.mem_singleton] at hname
    cases hname
  | property other =>
    rw [parts, List.mem_singleton] at hname
    cases hname
    obtain ⟨declared, hdeclared, -⟩ := infer_property_eq_ok.1 h
    rw [hdeclared]
    rfl
  | not operand ih =>
    rcases mem_parts_not.1 hname with heq | hname
    · cases heq
    · exact ih (infer_not_eq_ok.1 h).1 hname
  | binary left operator right ihLeft ihRight =>
    obtain ⟨leftType, rightType, hleft, hright, -⟩ := infer_binary_eq_ok.1 h
    rcases mem_parts_binary.1 hname with heq | hname | hname
    · cases heq
    · exact ihLeft hleft hname
    · exact ihRight hright hname
  | call function args ih =>
    rcases mem_parts_call.1 hname with heq | ⟨arg, harg, hname⟩
    · cases heq
    · obtain ⟨argType, hargType⟩ := infer_arg_of_infer_call h harg
      exact ih arg harg hargType hname

end Expression
end ODataQuery
