import ODataQuery.Encoding.Expression
import ODataQuery.Proofs.DateTime.RoundTrip
import ODataQuery.Proofs.Expression.Parts
import ODataQuery.Proofs.Json.Fields

/-!
# Expressions are read back from JSON

Each kind of value and of expression has a JSON form that no other kind has.  Only a double that is
infinite or no number has no form of its own: null is written for it, and that is no double.

* `Value.HasJsonForm`, `Expression.HasJsonForm`: no such double is in the value or the expression.
* `Value.ofJson?_toJson_iff`, `Expression.ofJson?_toJson_iff`: exactly then it is read back.
-/

set_option autoImplicit false

namespace ODataQuery

/-! ## Values -/

namespace Value

/-- The value is no double that is infinite or no number. -/
def HasJsonForm : Value → Prop
  | float x => ∃ value, Number.shape x = .finite value
  | _ => True

/-- Only a finite double is written as a number. -/
theorem toFloat?_floatToJson_iff {x : Float} :
    Json.toFloat? (floatToJson x) = some x ↔ ∃ value, Number.shape x = .finite value := by
  rw [floatToJson]
  cases Number.shape x <;> simp [Json.toFloat?]

/-- The kind of a value says how its content is read. -/
theorem ofJson?_object (strictness : Json.Strictness) (kind : String) (content : Json) :
    ofJson? strictness (.object [("type", .string kind), ("value", content)])
      = ofContent? kind (.given content) := by
  simp [ofJson?, Json.plainChoice?, Json.choice?]

/-- **A value is read back** exactly if it has a JSON form. -/
theorem ofJson?_toJson_iff (strictness : Json.Strictness) (value : Value) :
    ofJson? strictness value.toJson = some value ↔ value.HasJsonForm := by
  cases value with
  | null =>
    simp [toJson, ofJson?, Json.plainChoice?, Json.choice?, ofContent?, HasJsonForm]
  | bool b =>
    simp [toJson, typeTag, toPlainJson, ofJson?_object, ofContent?, Json.toBool?, HasJsonForm]
  | int i =>
    simp [toJson, typeTag, toPlainJson, ofJson?_object, ofContent?, Json.toInt?,
      Number.integer?_toInt, HasJsonForm]
  | float x =>
    simp [toJson, typeTag, toPlainJson, ofJson?_object, ofContent?, toFloat?_floatToJson_iff,
      HasJsonForm]
  | string s =>
    simp [toJson, typeTag, toPlainJson, ofJson?_object, ofContent?, HasJsonForm]
  | dateTime t =>
    simp [toJson, typeTag, toPlainJson, ofJson?_object, ofContent?, Json.toDateTime?,
      DateTime.readTimestamp?_text, HasJsonForm]

end Value

/-! ## Expressions -/

namespace Expression

/-- Every literal in the expression has a JSON form. -/
def HasJsonForm (e : Expression) : Prop :=
  ∀ value, literal value ∈ e.parts → value.HasJsonForm

theorem hasJsonForm_literal {value : Value} :
    (literal value).HasJsonForm ↔ value.HasJsonForm := by
  simp [HasJsonForm, parts]

theorem hasJsonForm_property (name : String) : (property name).HasJsonForm := by
  simp [HasJsonForm, parts]

theorem hasJsonForm_not {operand : Expression} :
    operand.not.HasJsonForm ↔ operand.HasJsonForm := by
  simp [HasJsonForm, mem_parts_not]

theorem hasJsonForm_binary {left right : Expression} {operator : Operator} :
    (binary left operator right).HasJsonForm ↔ left.HasJsonForm ∧ right.HasJsonForm := by
  simp [HasJsonForm, mem_parts_binary, or_imp, forall_and]

theorem hasJsonForm_call {function : Function} {args : List Expression} :
    (call function args).HasJsonForm ↔ ∀ arg ∈ args, arg.HasJsonForm := by
  simp only [HasJsonForm, mem_parts_call, reduceCtorEq, false_or]
  exact ⟨fun h arg harg value hvalue => h value ⟨arg, harg, hvalue⟩,
    fun h value ⟨arg, harg, hvalue⟩ => h arg harg value hvalue⟩

theorem argsToJson_eq_map (args : List Expression) : argsToJson args = args.map toJson := by
  induction args with
  | nil => rfl
  | cons arg rest ih => rw [argsToJson, ih, List.map_cons]

/-- The kind of an expression says how its content is read, one level further in. -/
theorem ofJsonWithin?_object (strictness : Json.Strictness) (depth : Nat) (kind : String)
    (content : Json) :
    ofJsonWithin? strictness (depth + 1) (.object [(kind, content)])
      = ofContent? strictness (ofJsonWithin? strictness depth) kind content :=
  rfl

/-- **An expression is read back** exactly if it has a JSON form, as long as there is depth for it. -/
theorem ofJsonWithin?_toJson_iff (strictness : Json.Strictness) {e : Expression} {depth : Nat}
    (hdepth : e.toJson.depth ≤ depth) :
    ofJsonWithin? strictness depth e.toJson = some e ↔ e.HasJsonForm := by
  induction e using Expression.induction generalizing depth with
  | literal value =>
    obtain ⟨depth, rfl⟩ := Json.exists_succ_of_depth_le hdepth
    rw [toJson, ofJsonWithin?_object]
    simp [ofContent?, Value.ofJson?_toJson_iff, hasJsonForm_literal]
  | property name =>
    obtain ⟨depth, rfl⟩ := Json.exists_succ_of_depth_le hdepth
    rw [toJson, ofJsonWithin?_object]
    simp [ofContent?, hasJsonForm_property]
  | not operand ih =>
    obtain ⟨depth, rfl⟩ := Json.exists_succ_of_depth_le hdepth
    simp only [toJson, Json.depth, Json.depthOfFields] at hdepth
    have hoperand := ih (by omega : operand.toJson.depth ≤ depth)
    rw [toJson, ofJsonWithin?_object]
    simp [ofContent?, hoperand, hasJsonForm_not]
  | binary left operator right ihleft ihright =>
    obtain ⟨depth, rfl⟩ := Json.exists_succ_of_depth_le hdepth
    simp only [toJson, Json.depth, Json.depthOfFields] at hdepth
    have hleft := ihleft (by omega : left.toJson.depth ≤ depth)
    have hright := ihright (by omega : right.toJson.depth ≤ depth)
    have hoperator : Json.oneOf? strictness Operator.all Operator.keyword
        (.string operator.keyword) = some operator :=
      Json.oneOf?_string strictness operator.ofKeyword?_keyword
    rw [toJson, ofJsonWithin?_object]
    simp [ofContent?, Json.choiceMembers?, hoperator, Option.bind_eq_some_iff, hleft, hright,
      hasJsonForm_binary]
  | call function args ih =>
    obtain ⟨depth, rfl⟩ := Json.exists_succ_of_depth_le hdepth
    simp only [toJson, Json.depth, Json.depthOfFields] at hdepth
    have hfunction : Json.oneOf? strictness Function.all Function.name
        (.string function.name) = some function :=
      Json.oneOf?_string strictness function.ofName?_name
    have hargs : Json.toList? (ofJsonWithin? strictness depth) (.array (argsToJson args)) = some args
        ↔ ∀ arg ∈ args, arg.HasJsonForm := by
      rw [argsToJson_eq_map, Json.toList?_array_iff]
      refine forall₂_congr fun arg harg => ih arg harg ?_
      have harg := Json.depth_le_depthOfItems (List.mem_map_of_mem (f := toJson) harg)
      rw [← argsToJson_eq_map] at harg
      omega
    rw [toJson, ofJsonWithin?_object]
    simp [ofContent?, Json.choiceMembers?, hfunction, Option.bind_eq_some_iff, hargs,
      hasJsonForm_call]

/-- **An expression is read back** exactly if it has a JSON form. -/
theorem ofJson?_toJson_iff (strictness : Json.Strictness) (e : Expression) :
    ofJson? strictness e.toJson = some e ↔ e.HasJsonForm :=
  ofJsonWithin?_toJson_iff strictness (Nat.le_refl _)

end Expression
end ODataQuery
