import ODataQuery.Proofs.Expression.Parts
import ODataQuery.Proofs.Records.Selection

/-!
# Values have the type of their expression

Typing and evaluation go through an expression by tables of their own.  Where the properties of a
record are null or of the declared types, the value of an expression is null or of the type of the
expression.

* `Value.Fits`: a value is null or of a type; one lemma for each kind of node says that values that
  fit the operands give one that fits the result.
* `Binding.Conforms`: the properties of a record fit their declared types.
* `Node.fits_evaluate`: the value of a typed expression fits its type.
* `Expression.Definite`: nothing in the expression can make it null: no null literal, no arithmetic,
  which can leave the range, no double, which may be no number, and no absent property.
* `Value.IsDefinite`: the value is there, and it is no double; kept by each kind of node.
* `Node.evaluate_of_definite`: so the value of a definite expression is there.
* `Node.typed_evaluation`: both together; of a definite condition and its negation exactly one
  matches.
-/

set_option autoImplicit false

namespace ODataQuery

variable {ρ : Type}

/-! ## Values of a type -/

namespace Value

/-- The value is null or of the type. -/
def Fits (value : Value) (type : StaticType) : Prop :=
  value = null ∨ StaticType.ofValue value = type

instance (value : Value) (type : StaticType) : Decidable (value.Fits type) :=
  inferInstanceAs (Decidable (_ ∨ _))

theorem null_fits (type : StaticType) : null.Fits type :=
  .inl rfl

/-- Only null is of the type of null. -/
theorem Fits.eq_null {value : Value} (h : value.Fits .null) : value = null := by
  rcases h with h | h
  · exact h
  · cases value <;> first | rfl | cases h

/-- A value that is not null is of a scalar type that it fits. -/
theorem Fits.scalarType?_eq {value : Value} {type : StaticType} (h : value.Fits type)
    (hvalue : value ≠ null) : ∃ scalar, type = .scalar scalar ∧ value.scalarType? = some scalar := by
  rcases h with h | rfl
  · exact absurd h hvalue
  · cases value with
    | null => exact absurd rfl hvalue
    | _ => exact ⟨_, rfl, rfl⟩

/-- A value of a scalar type fits it. -/
theorem fits_of_scalarType? {value : Value} {scalar : ScalarType}
    (h : value.scalarType? = some scalar) : value.Fits (.scalar scalar) := by
  right
  rw [StaticType.ofValue, h]

theorem ofTruth_fits (truth : Option Bool) : (ofTruth truth).Fits .boolean := by
  cases truth with
  | none => exact null_fits _
  | some b => exact .inr rfl

theorem comparison_fits (c : Comparison) (left right : Value) :
    (comparison c left right).Fits .boolean := by
  rw [comparison]
  split
  · exact null_fits _
  · exact ofTruth_fits _

/-- **The result of arithmetic fits its type**: integers give an integer, and a double makes the
result one. -/
theorem arithmetic_fits (a : Arithmetic) {left right : Value} {leftType rightType type : StaticType}
    (hleft : left.Fits leftType) (hright : right.Fits rightType)
    (htype : Arithmetic.resultType? leftType rightType = some type) :
    (arithmetic a left right).Fits type := by
  rcases hleft with rfl | rfl
  · cases right <;> exact null_fits _
  rcases hright with rfl | rfl
  · cases left <;> exact null_fits _
  cases left with
  | null => cases right <;> exact null_fits _
  | int x =>
    cases right with
    | null => exact null_fits _
    | int y =>
      cases htype
      rw [arithmetic]
      split
      · exact .inr rfl
      · exact null_fits _
    | float y =>
      cases htype
      exact .inr rfl
    | bool | string | dateTime => cases htype
  | float x =>
    cases right with
    | null => exact null_fits _
    | int y | float y =>
      cases htype
      exact .inr rfl
    | bool | string | dateTime => cases htype
  | bool | string | dateTime =>
    cases right with
    | null => exact null_fits _
    | _ => cases htype

/-! ## Calls -/

/-- A null among the arguments makes a call null. -/
theorem call_eq_null_of_mem (function : Function) {args : List Value} (h : null ∈ args) :
    call function args = null := by
  rw [call.eq_def]
  split <;> first | rfl | simp at h

theorem exists_string {value : Value} (hvalue : value ≠ null)
    (h : ∀ type, value.scalarType? = some type → ArgumentKind.string.accepts type = true) :
    ∃ s, value = string s := by
  cases value with
  | null => exact absurd rfl hvalue
  | string s => exact ⟨s, rfl⟩
  | _ => cases h _ rfl

theorem exists_dateTime {value : Value} (hvalue : value ≠ null)
    (h : ∀ type, value.scalarType? = some type → ArgumentKind.dateTime.accepts type = true) :
    ∃ t, value = dateTime t := by
  cases value with
  | null => exact absurd rfl hvalue
  | dateTime t => exact ⟨t, rfl⟩
  | _ => cases h _ rfl

theorem exists_number {value : Value} (hvalue : value ≠ null)
    (h : ∀ type, value.scalarType? = some type → ArgumentKind.number.accepts type = true) :
    (∃ i, value = int i) ∨ ∃ x, value = float x := by
  cases value with
  | null => exact absurd rfl hvalue
  | int i => exact .inl ⟨i, rfl⟩
  | float x => exact .inr ⟨x, rfl⟩
  | _ => cases h _ rfl

/-- **A call of a function with what it asks for has a value**, which is of the type of the call. -/
theorem scalarType?_call {function : Function} {args : List Value}
    (hlength : args.length = function.arity) (hargs : null ∉ args)
    (haccepts : ∀ arg ∈ args, ∀ type, arg.scalarType? = some type →
      function.argumentKind.accepts type = true) :
    ∃ type, function.typeOfFitting (args.map StaticType.ofValue) = .scalar type
      ∧ (call function args).scalarType? = some type := by
  cases function with
  | test t =>
    obtain ⟨first, second, rfl⟩ := List.length_eq_two.1 hlength
    have hfirst : first ≠ null := fun h => hargs (h ▸ List.mem_cons_self)
    have hsecond : second ≠ null := fun h => hargs (h ▸ List.mem_cons_of_mem _ List.mem_cons_self)
    obtain ⟨s, rfl⟩ := exists_string hfirst (haccepts first List.mem_cons_self)
    obtain ⟨s', rfl⟩ :=
      exists_string hsecond (haccepts second (List.mem_cons_of_mem _ List.mem_cons_self))
    exact ⟨.boolean, rfl, rfl⟩
  | length =>
    obtain ⟨arg, rfl⟩ := List.length_eq_one_iff.1 hlength
    have harg : arg ≠ null := fun h => hargs (h ▸ List.mem_cons_self)
    obtain ⟨s, rfl⟩ := exists_string harg (haccepts arg List.mem_cons_self)
    exact ⟨.integer, rfl, rfl⟩
  | change c =>
    obtain ⟨arg, rfl⟩ := List.length_eq_one_iff.1 hlength
    have harg : arg ≠ null := fun h => hargs (h ▸ List.mem_cons_self)
    obtain ⟨s, rfl⟩ := exists_string harg (haccepts arg List.mem_cons_self)
    exact ⟨.string, rfl, rfl⟩
  | part p =>
    obtain ⟨arg, rfl⟩ := List.length_eq_one_iff.1 hlength
    have harg : arg ≠ null := fun h => hargs (h ▸ List.mem_cons_self)
    obtain ⟨t, rfl⟩ := exists_dateTime harg (haccepts arg List.mem_cons_self)
    exact ⟨.integer, rfl, rfl⟩
  | whole w =>
    obtain ⟨arg, rfl⟩ := List.length_eq_one_iff.1 hlength
    have harg : arg ≠ null := fun h => hargs (h ▸ List.mem_cons_self)
    obtain ⟨i, rfl⟩ | ⟨x, rfl⟩ := exists_number harg (haccepts arg List.mem_cons_self)
    · exact ⟨.integer, rfl, rfl⟩
    · exact ⟨.double, rfl, rfl⟩

/-- Arguments that are not null are of the types that they fit. -/
theorem types_eq_of_fits {args : List Value} {types : List StaticType}
    (hargs : List.Forall₂ Fits args types) (hnull : null ∉ args) :
    types = args.map StaticType.ofValue := by
  induction hargs with
  | nil => rfl
  | @cons arg type args types harg _ ih =>
    rw [List.mem_cons, not_or] at hnull
    rw [List.map_cons, ih hnull.2]
    rcases harg with rfl | rfl
    · exact absurd rfl hnull.1
    · rfl

/-- A call of arguments that fit what the function was checked with is null if one of them is, and
otherwise has a value of the type of the call. -/
theorem call_of_fits {function : Function} {args : List Value} {types : List StaticType}
    {type : StaticType} (hargs : List.Forall₂ Fits args types)
    (htype : function.resultType types = .ok type) (hnull : null ∉ args) :
    ∃ scalar, type = .scalar scalar ∧ (call function args).scalarType? = some scalar := by
  obtain ⟨hlength, haccepts, rfl⟩ := Function.resultType_eq_ok.1 htype
  rw [types_eq_of_fits hargs hnull] at hlength haccepts ⊢
  rw [List.length_map] at hlength
  refine scalarType?_call hlength hnull fun arg harg scalar hscalar => haccepts scalar ?_
  refine List.mem_map.2 ⟨arg, harg, ?_⟩
  rw [StaticType.ofValue, hscalar]

/-- **The result of a call fits its type**, if the arguments fit what the function was checked
with. -/
theorem call_fits {function : Function} {args : List Value} {types : List StaticType}
    {type : StaticType} (hargs : List.Forall₂ Fits args types)
    (htype : function.resultType types = .ok type) : (call function args).Fits type := by
  by_cases hnull : null ∈ args
  · rw [call_eq_null_of_mem function hnull]
    exact null_fits type
  · obtain ⟨scalar, rfl, hscalar⟩ := call_of_fits hargs htype hnull
    exact fits_of_scalarType? hscalar

/-! ## Values that are there -/

/-- The value is there, and it is no double, which may be no number: values of one type that are
definite can be compared. -/
def IsDefinite (value : Value) : Prop :=
  value ≠ null ∧ value.scalarType? ≠ some .double

/-- A known condition is true or false. -/
theorem Fits.exists_bool {value : Value} (h : value.Fits .boolean) (hvalue : value ≠ null) :
    ∃ b, value = bool b := by
  cases value with
  | null => exact absurd rfl hvalue
  | bool b => exact ⟨b, rfl⟩
  | _ => rcases h with h | h <;> cases h

/-- A condition is definite as soon as it is known. -/
theorem Fits.isDefinite {value : Value} (h : value.Fits .boolean) (hvalue : value ≠ null) :
    value.IsDefinite := by
  obtain ⟨b, rfl⟩ := h.exists_bool hvalue
  exact ⟨hvalue, nofun⟩

/-- A definite value is of a scalar type that it fits, other than that of doubles. -/
theorem IsDefinite.exists_scalar {value : Value} {type : StaticType} (h : value.IsDefinite)
    (hfits : value.Fits type) :
    ∃ scalar, type = .scalar scalar ∧ value.scalarType? = some scalar ∧ scalar ≠ .double := by
  obtain ⟨scalar, htype, hscalar⟩ := hfits.scalarType?_eq h.1
  refine ⟨scalar, htype, hscalar, ?_⟩
  rintro rfl
  exact h.2 hscalar

/-- Values of one type other than that of doubles can be compared. -/
theorem comparison_ne_null (c : Comparison) {left right : Value} {type : ScalarType}
    (hleft : left.scalarType? = some type) (hright : right.scalarType? = some type)
    (hdouble : type ≠ .double) : comparison c left right ≠ null := by
  have hcompare : ∃ order, left.compare right = some order := by
    cases left <;> cases hleft <;> cases right <;> cases hright <;>
      first | exact ⟨_, rfl⟩ | exact absurd rfl hdouble
  obtain ⟨order, horder⟩ := hcompare
  have hpresent : (left.isNull || right.isNull) = false := by
    cases left <;> cases hleft <;> cases right <;> cases hright <;> rfl
  rw [comparison, hpresent, horder]
  exact nofun

/-- Definite values that fit the operands of a comparison have a definite comparison. -/
theorem comparison_isDefinite {c : Comparison} {left right : Value}
    {leftType rightType type : StaticType} (hleft : left.Fits leftType)
    (hright : right.Fits rightType)
    (htype : (Operator.comparison c).resultType leftType rightType = .ok type)
    (hleftDefinite : left.IsDefinite) (hrightDefinite : right.IsDefinite) :
    (comparison c left right).IsDefinite := by
  obtain ⟨leftScalar, rfl, hleftScalar, hleftDouble⟩ := hleftDefinite.exists_scalar hleft
  obtain ⟨rightScalar, rfl, hrightScalar, hrightDouble⟩ := hrightDefinite.exists_scalar hright
  obtain rfl := (Operator.resultType_comparison_eq_ok htype).2 _ _ rfl rfl hleftDouble hrightDouble
  exact (comparison_fits c left right).isDefinite
    (comparison_ne_null c hleftScalar hrightScalar hleftDouble)

/-- A connective of known conditions is known. -/
theorem connect_isDefinite (c : Connective) {left right : Value} (hleft : left.Fits .boolean)
    (hright : right.Fits .boolean) (hleftValue : left ≠ null) (hrightValue : right ≠ null) :
    (ofTruth (connect c left.truth? right.truth?)).IsDefinite := by
  obtain ⟨b, rfl⟩ := hleft.exists_bool hleftValue
  obtain ⟨b', rfl⟩ := hright.exists_bool hrightValue
  have hvalue : ofTruth (connect c (some b) (some b')) ≠ null := by
    cases c <;> cases b <;> cases b' <;> decide
  exact (ofTruth_fits _).isDefinite hvalue

/-- Only a double among the arguments makes a call one. -/
theorem exists_double_of_call {function : Function} {args : List Value}
    (h : (call function args).scalarType? = some .double) :
    ∃ arg ∈ args, arg.scalarType? = some .double := by
  rw [call.eq_def] at h
  split at h <;> first | exact ⟨_, List.mem_cons_self, rfl⟩ | cases h

/-- A call of definite arguments that fit what the function was checked with is definite. -/
theorem call_isDefinite {function : Function} {args : List Value} {types : List StaticType}
    {type : StaticType} (hargs : List.Forall₂ Fits args types)
    (htype : function.resultType types = .ok type) (hdefinite : ∀ arg ∈ args, arg.IsDefinite) :
    (call function args).IsDefinite := by
  have hnull : null ∉ args := fun hmem => (hdefinite null hmem).1 rfl
  obtain ⟨scalar, -, hscalar⟩ := call_of_fits hargs htype hnull
  refine ⟨fun hvalue => ?_, fun hdouble => ?_⟩
  · rw [hvalue] at hscalar
    cases hscalar
  · obtain ⟨arg, harg, hvalue⟩ := exists_double_of_call hdouble
    exact (hdefinite arg harg).2 hvalue

end Value

/-! ## Records of a schema -/

/-- Every property of the record is null or of its declared type. -/
def Binding.Conforms (binding : Binding ρ) (record : ρ) : Prop :=
  ∀ name declared, binding.schema.property? name = some declared →
    (binding.read name record).Fits (.scalar declared.type)

/-- It is enough to look at what is bound. -/
theorem Binding.conforms_of_bound {binding : Binding ρ} {record : ρ}
    (h : ∀ entry ∈ binding.properties.entries,
      (entry.2.read record).Fits (.scalar entry.2.property.type)) : binding.Conforms record := by
  intro name declared hdeclared
  rw [property?_schema] at hdeclared
  obtain ⟨bound, hbound, rfl⟩ := Option.map_eq_some_iff.1 hdeclared
  have hread : binding.read name record = bound.read record := by
    rw [read, reader?, hbound, Option.map_some]
  rw [hread]
  exact h _ (Dictionary.mem_entries_of_get? hbound)

namespace Node

variable {binding : Binding ρ} {record : ρ}

/-- What holds of the value and the type of each argument holds of their values and types. -/
theorem evaluateArgs_of_each {holds : Value → StaticType → Prop} {args : List Expression}
    {types : List StaticType} {nodes : List (Node ρ)}
    (htypes : List.Forall₂ (fun arg type => arg.infer binding.schema = .ok type) args types)
    (hnodes : List.Forall₂ (fun arg node => resolve binding arg = .ok node) args nodes)
    (heach : ∀ arg ∈ args, ∀ type, arg.infer binding.schema = .ok type →
      ∀ node, resolve binding arg = .ok node → holds (node.evaluate record) type) :
    List.Forall₂ holds (evaluateArgs record nodes) types := by
  induction htypes generalizing nodes with
  | nil =>
    cases hnodes
    exact .nil
  | cons htype _ ih =>
    cases hnodes with
    | cons hnode hnodes =>
      rw [evaluateArgs_cons]
      refine .cons (heach _ List.mem_cons_self _ htype _ hnode) (ih hnodes fun arg harg => ?_)
      exact heach arg (List.mem_cons_of_mem _ harg)

/-- **The value of a typed expression is null or of its type**, on every record whose properties
are. -/
theorem fits_evaluate (hrecord : binding.Conforms record) {e : Expression} {type : StaticType}
    (htype : e.infer binding.schema = .ok type) {node : Node ρ}
    (hnode : resolve binding e = .ok node) : (node.evaluate record).Fits type := by
  induction e using Expression.induction generalizing type node with
  | literal value =>
    obtain rfl := resolve_literal_eq_ok.1 hnode
    rw [Expression.infer_literal] at htype
    cases htype
    rw [evaluate_literal]
    exact .inr rfl
  | property name =>
    obtain ⟨read, hread, rfl⟩ := resolve_property_eq_ok.1 hnode
    obtain ⟨declared, hdeclared, rfl⟩ := Expression.infer_property_eq_ok.1 htype
    rw [evaluate_property, ← Binding.read_of_reader hread]
    exact hrecord name declared hdeclared
  | not operand _ =>
    obtain ⟨operandNode, -, rfl⟩ := resolve_not_eq_ok.1 hnode
    obtain ⟨-, rfl⟩ := Expression.infer_not_eq_ok.1 htype
    rw [evaluate_not]
    exact Value.ofTruth_fits _
  | binary left operator right ihleft ihright =>
    obtain ⟨leftType, rightType, hleft, hright, hresult⟩ := Expression.infer_binary_eq_ok.1 htype
    cases operator with
    | comparison c =>
      obtain ⟨rfl, -⟩ := Operator.resultType_comparison_eq_ok hresult
      rcases resolve_comparison_eq_ok hnode with ⟨operandNode, negated, rfl⟩ |
        ⟨leftNode, rightNode, rfl⟩
      · rw [evaluate_nullTest]
        exact .inr rfl
      · rw [evaluate_comparison]
        exact Value.comparison_fits c _ _
    | connective c =>
      obtain ⟨-, -, rfl⟩ := Operator.resultType_connective_eq_ok.1 hresult
      obtain ⟨leftNode, rightNode, -, -, rfl⟩ := resolve_connective_eq_ok.1 hnode
      rw [evaluate_connective]
      exact Value.ofTruth_fits _
    | arithmetic a =>
      obtain ⟨leftNode, rightNode, hleftNode, hrightNode, rfl⟩ :=
        resolve_arithmetic_eq_ok.1 hnode
      rw [evaluate_arithmetic]
      exact Value.arithmetic_fits a (ihleft hleft hleftNode) (ihright hright hrightNode)
        (Operator.resultType_arithmetic_eq_ok.1 hresult)
  | call function args ih =>
    obtain ⟨nodes, hnodes, rfl⟩ := resolve_call_eq_ok.1 hnode
    obtain ⟨types, htypes, hresult⟩ := Expression.infer_call_eq_ok.1 htype
    have hargs : List.Forall₂ Value.Fits (evaluateArgs record nodes) types :=
      evaluateArgs_of_each (Expression.inferArgs_eq_ok.1 htypes) hnodes
        fun arg harg _ hargType _ hargNode => ih arg harg hargType hargNode
    rw [evaluate_call]
    exact Value.call_fits hargs hresult

end Node

/-! ## Expressions that are not null -/

/-- Nothing in the expression can make it null on the record. -/
structure Expression.Definite (binding : Binding ρ) (record : ρ) (e : Expression) : Prop where
  null : .literal .null ∉ e.parts
  arithmetic : ∀ left a right, .binary left (.arithmetic a) right ∉ e.parts
  float : ∀ x, .literal (.float x) ∉ e.parts
  double : ∀ name declared, .property name ∈ e.parts →
    binding.schema.property? name = some declared → declared.type ≠ .double
  present : ∀ name, .property name ∈ e.parts → binding.read name record ≠ .null

theorem Expression.Definite.of_subset {binding : Binding ρ} {record : ρ} {e part : Expression}
    (h : e.Definite binding record) (hpart : part.parts ⊆ e.parts) :
    part.Definite binding record where
  null hnull := h.null (hpart hnull)
  arithmetic left a right harithmetic := h.arithmetic left a right (hpart harithmetic)
  float x hfloat := h.float x (hpart hfloat)
  double name declared hname := h.double name declared (hpart hname)
  present name hname := h.present name (hpart hname)

theorem Expression.Definite.ne_null {binding : Binding ρ} {record : ρ} {e : Expression}
    (h : e.Definite binding record) : e ≠ .literal .null := by
  rintro rfl
  exact h.null (Expression.self_mem_parts _)

/-- Only the literal null is a literal null. -/
theorem Expression.isNullLiteral_eq_false {e : Expression} (h : e ≠ .literal .null) :
    e.isNullLiteral = false := by
  rw [← Bool.not_eq_true, isNullLiteral_iff]
  exact h

/-- Where no operand is a literal null, a comparison is no null test. -/
theorem Comparison.nullTest?_eq_none (c : Comparison) {left right : Expression}
    (hleft : left ≠ .literal .null) (hright : right ≠ .literal .null) :
    c.nullTest? left right = none := by
  simp only [nullTest?, Expression.isNullLiteral_eq_false hleft,
    Expression.isNullLiteral_eq_false hright]
  cases c <;> rfl

namespace Node

variable {binding : Binding ρ} {record : ρ}

/-- **The value of a definite expression is there**, and it is no double. -/
theorem evaluate_of_definite (hrecord : binding.Conforms record) {e : Expression}
    (hdefinite : e.Definite binding record) {type : StaticType}
    (htype : e.infer binding.schema = .ok type) {node : Node ρ}
    (hnode : resolve binding e = .ok node) : (node.evaluate record).IsDefinite := by
  induction e using Expression.induction generalizing type node with
  | literal value =>
    obtain rfl := resolve_literal_eq_ok.1 hnode
    rw [evaluate_literal]
    cases value with
    | null => exact absurd (Expression.self_mem_parts _) hdefinite.null
    | float x => exact absurd (Expression.self_mem_parts _) (hdefinite.float x)
    | _ => exact ⟨nofun, nofun⟩
  | property name =>
    have hname := Expression.self_mem_parts (.property name)
    have hfits := fits_evaluate hrecord htype hnode
    obtain ⟨read, hread, rfl⟩ := resolve_property_eq_ok.1 hnode
    obtain ⟨declared, hdeclared, rfl⟩ := Expression.infer_property_eq_ok.1 htype
    rw [evaluate_property, ← Binding.read_of_reader hread] at hfits ⊢
    have hpresent := hdefinite.present name hname
    obtain ⟨scalar, htype, hscalar⟩ := hfits.scalarType?_eq hpresent
    refine ⟨hpresent, fun hdouble => hdefinite.double name declared hname hdeclared ?_⟩
    rw [StaticType.scalar.inj htype]
    exact Option.some.inj (hscalar.symm.trans hdouble)
  | not operand ih =>
    obtain ⟨operandNode, hoperandNode, rfl⟩ := resolve_not_eq_ok.1 hnode
    obtain ⟨hoperand, rfl⟩ := Expression.infer_not_eq_ok.1 htype
    have hpresent := ih (hdefinite.of_subset (Expression.operand_parts_subset operand)) hoperand
      hoperandNode
    obtain ⟨b, hb⟩ := (fits_evaluate hrecord hoperand hoperandNode).exists_bool hpresent.1
    rw [evaluate_not, hb]
    exact ⟨nofun, nofun⟩
  | binary left operator right ihleft ihright =>
    have hleftDefinite := hdefinite.of_subset (Expression.left_parts_subset left operator right)
    have hrightDefinite := hdefinite.of_subset (Expression.right_parts_subset left operator right)
    obtain ⟨leftType, rightType, hleft, hright, hresult⟩ := Expression.infer_binary_eq_ok.1 htype
    cases operator with
    | comparison c =>
      -- a definite operand is not the literal null, so the comparison is no null test
      have hnullTest := c.nullTest?_eq_none hleftDefinite.ne_null hrightDefinite.ne_null
      obtain ⟨leftNode, rightNode, hleftNode, hrightNode, rfl⟩ :=
        (resolve_comparison_of_nullTest? hnullTest).1 hnode
      rw [evaluate_comparison]
      exact Value.comparison_isDefinite (fits_evaluate hrecord hleft hleftNode)
        (fits_evaluate hrecord hright hrightNode) hresult
        (ihleft hleftDefinite hleft hleftNode) (ihright hrightDefinite hright hrightNode)
    | connective c =>
      obtain ⟨rfl, rfl, rfl⟩ := Operator.resultType_connective_eq_ok.1 hresult
      obtain ⟨leftNode, rightNode, hleftNode, hrightNode, rfl⟩ :=
        resolve_connective_eq_ok.1 hnode
      rw [evaluate_connective]
      exact Value.connect_isDefinite c (fits_evaluate hrecord hleft hleftNode)
        (fits_evaluate hrecord hright hrightNode) (ihleft hleftDefinite hleft hleftNode).1
        (ihright hrightDefinite hright hrightNode).1
    | arithmetic a =>
      exact absurd (Expression.self_mem_parts _) (hdefinite.arithmetic left a right)
  | call function args ih =>
    obtain ⟨nodes, hnodes, rfl⟩ := resolve_call_eq_ok.1 hnode
    obtain ⟨types, htypes, hresult⟩ := Expression.infer_call_eq_ok.1 htype
    have hargs : List.Forall₂ (fun value type => value.IsDefinite ∧ value.Fits type)
        (evaluateArgs record nodes) types :=
      evaluateArgs_of_each (Expression.inferArgs_eq_ok.1 htypes) hnodes
        fun arg harg _ hargType _ hargNode =>
          ⟨ih arg harg (hdefinite.of_subset (Expression.arg_parts_subset function harg)) hargType
            hargNode, fits_evaluate hrecord hargType hargNode⟩
    obtain ⟨hvalues, hfits⟩ := (List.forall₂_and_left _ _).1 hargs
    rw [evaluate_call]
    exact Value.call_isDefinite hfits hresult hvalues

/-- **The value of a typed expression has its type.**  On a record whose properties are null or of
their declared types, the value is null or of the type that the expression was given.  If nothing in
the expression can make it null, the value is there, and of a condition and its negation exactly one
matches. -/
theorem typed_evaluation (schema : Schema) {e : Expression} {type : StaticType}
    (htype : e.infer schema = .ok type) (binding : Binding ρ) (hbinding : binding.schema = schema)
    {record : ρ} (hrecord : binding.Conforms record) :
    ∃ node, resolve binding e = .ok node
      ∧ (node.evaluate record = .null ∨ .ofValue (node.evaluate record) = type)
      ∧ (type = .null → node.evaluate record = .null)
      ∧ (e.Definite binding record → node.evaluate record ≠ .null
        ∧ (e.checkPredicate schema = .ok () →
          binding.selects e.not record = !binding.selects e record)) := by
  subst hbinding
  obtain ⟨node, hnode⟩ := resolve_of_infer htype
  have hfits := fits_evaluate hrecord htype hnode
  refine ⟨node, hnode, hfits, ?_, fun hdefinite => ?_⟩
  · rintro rfl
    exact hfits.eq_null
  · obtain ⟨hvalue, -⟩ := evaluate_of_definite hrecord hdefinite htype hnode
    refine ⟨hvalue, fun hcheck => ?_⟩
    have hboolean := fits_evaluate hrecord (Expression.checkPredicate_eq_ok.1 hcheck) hnode
    obtain ⟨b, hb⟩ := hboolean.exists_bool hvalue
    have hnot : resolve binding e.not = .ok (.not node) := by
      rw [resolve, hnode]
      rfl
    rw [Binding.selects_of_resolve hnode, Binding.selects_of_resolve hnot, selects_eq, selects_eq,
      verdict, verdict, evaluate_not, hb]
    cases b <;> rfl

/-- The rule for a filter with functions of each kind of argument, on a record that lacks a property
that the filter does not name. -/
theorem typed_evaluation_of_functions :
    let binding : Binding (Int64 × String) := ⟨"Note", .ofList
      [("Id", ⟨{ type := .integer }, fun note => .int note.1⟩),
        ("Text", ⟨{ type := .string }, fun note => .string note.2⟩),
        ("Price", ⟨{ type := .double }, fun _ => .null⟩)]⟩
    let filter : Expression :=
      .binary
        (.not (.binary (.call .length [.property "Text"]) (.comparison .gt)
          (.call (.whole .round) [.property "Id"])))
        (.connective .or)
        (.call (.test .startsWith) [.property "Text", .literal (.string "a")])
    ∃ node, resolve binding filter = .ok node
      ∧ node.evaluate (7, "abc") ≠ .null
      ∧ binding.selects filter.not (7, "abc") = !binding.selects filter (7, "abc") := by
  intro binding filter
  have htype : filter.infer binding.schema = .ok .boolean := rfl
  have hrecord : binding.Conforms (7, "abc") := Binding.conforms_of_bound (by decide)
  have hnames : ∀ name, .property name ∈ filter.parts → name = "Text" ∨ name = "Id" := by
    intro name hname
    have hname : name = "Text" ∨ name = "Id" ∨ name = "Text" := by
      simpa [filter, Expression.parts, Expression.partsOfArgs] using hname
    rcases hname with h | h | h
    · exact .inl h
    · exact .inr h
    · exact .inl h
  have hdefinite : filter.Definite binding (7, "abc") := by
    refine ⟨?_, ?_, ?_, fun name declared hname hdeclared => ?_, fun name hname => ?_⟩
    · simp [filter, Expression.parts, Expression.partsOfArgs]
    · simp [filter, Expression.parts, Expression.partsOfArgs]
    · simp [filter, Expression.parts, Expression.partsOfArgs]
    · rcases hnames name hname with rfl | rfl <;> cases hdeclared <;> decide
    · rcases hnames name hname with rfl | rfl <;> decide
  obtain ⟨node, hnode, -, -, hvalue⟩ := typed_evaluation binding.schema htype binding rfl hrecord
  obtain ⟨hpresent, hselects⟩ := hvalue hdefinite
  exact ⟨node, hnode, hpresent, hselects (Expression.checkPredicate_eq_ok.2 htype)⟩

end Node

end ODataQuery
