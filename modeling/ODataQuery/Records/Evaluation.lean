import ODataQuery.Logged
import ODataQuery.Records.Binding
import ODataQuery.Records.Operations

/-!
# Evaluating filters on records

A filter is first resolved against a binding, so that every property in it can be read, and is then
evaluated on one record at a time.

* `Node`: a resolved expression.  A comparison with a literal null by equality has become a null
  test, whose answer is always known.
* `Node.trace`: evaluation on a record, with a log of the properties that are read.
* `Node.evaluate`, `Node.reads`: the value that it has, and what is read for it.
* `Node.test`, `Node.selects`: does the filter hold for the record.
-/

set_option autoImplicit false

namespace ODataQuery

/-- An expression whose properties can be read from records. -/
inductive Node (ρ : Type) where
  | literal (value : Value)
  | property (name : String) (read : ρ → Value)
  | not (operand : Node ρ)
  /-- Is the operand null; or, negated, is it not. -/
  | nullTest (operand : Node ρ) (negated : Bool)
  | connective (left : Node ρ) (c : Connective) (right : Node ρ)
  | comparison (left : Node ρ) (c : Comparison) (right : Node ρ)
  | arithmetic (left : Node ρ) (a : Arithmetic) (right : Node ρ)
  | call (function : Function) (args : List (Node ρ))

namespace Node

variable {ρ : Type}

/-! ## Resolving -/

mutual

/-- Resolve the properties of an expression. -/
def resolve (binding : Binding ρ) : Expression → Except UnboundProperty (Node ρ)
  | .literal value => .ok (literal value)
  | .property name => (binding.reader name).map (property name)
  | .not operand => (resolve binding operand).map not
  | .binary left (.comparison c) right =>
    match c.nullTest? left right with
    | some (.left, negated) => (resolve binding left).map (nullTest · negated)
    | some (.right, negated) => (resolve binding right).map (nullTest · negated)
    | none => do
      let left ← resolve binding left
      let right ← resolve binding right
      .ok (comparison left c right)
  | .binary left (.connective c) right => do
    let left ← resolve binding left
    let right ← resolve binding right
    .ok (connective left c right)
  | .binary left (.arithmetic a) right => do
    let left ← resolve binding left
    let right ← resolve binding right
    .ok (arithmetic left a right)
  | .call function args => (resolveArgs binding args).map (call function)

/-- Resolve the properties of the arguments of a call. -/
def resolveArgs (binding : Binding ρ) : List Expression → Except UnboundProperty (List (Node ρ))
  | [] => .ok []
  | arg :: rest => do
    let node ← resolve binding arg
    let nodes ← resolveArgs binding rest
    .ok (node :: nodes)

end

/-! ## Evaluating -/

mutual

/-- Evaluate an expression on a record.  The log holds the properties that are read.  The right
operand of a connective is evaluated only if the left one does not decide. -/
def trace (record : ρ) : Node ρ → Logged String Value
  | literal value => pure value
  | property name read => .noting name (read record)
  | not operand => do
    let value ← trace record operand
    pure value.negation
  | nullTest operand negated => do
    let value ← trace record operand
    pure (.bool (value.isNull != negated))
  | connective left c right => do
    let leftValue ← trace record left
    if leftValue.truth? = some (Value.decisive c) then pure (.bool (Value.decisive c))
    else do
      let rightValue ← trace record right
      pure (.ofTruth (Value.connect c leftValue.truth? rightValue.truth?))
  | comparison left c right => do
    let leftValue ← trace record left
    let rightValue ← trace record right
    pure (Value.comparison c leftValue rightValue)
  | arithmetic left a right => do
    let leftValue ← trace record left
    let rightValue ← trace record right
    pure (Value.arithmetic a leftValue rightValue)
  | call function args => do
    let values ← traceArgs record args
    pure (Value.call function values)

/-- Evaluate the arguments of a call, one after the other. -/
def traceArgs (record : ρ) : List (Node ρ) → Logged String (List Value)
  | [] => pure []
  | arg :: rest => do
    let value ← trace record arg
    let values ← traceArgs record rest
    pure (value :: values)

end

/-- The value of an expression on a record. -/
def evaluate (record : ρ) (node : Node ρ) : Value :=
  (trace record node).value

/-- The values of the arguments of a call. -/
def evaluateArgs (record : ρ) (args : List (Node ρ)) : List Value :=
  (traceArgs record args).value

/-- The properties that evaluation reads, in order. -/
def reads (record : ρ) (node : Node ρ) : List String :=
  (trace record node).log

/-- The properties that evaluation of the arguments of a call reads, in order. -/
def readsOfArgs (record : ρ) (args : List (Node ρ)) : List String :=
  (traceArgs record args).log

section Equations

variable (record : ρ)

@[simp] theorem evaluate_literal (value : Value) : evaluate record (literal value) = value := rfl

@[simp] theorem evaluate_property (name : String) (read : ρ → Value) :
    evaluate record (property name read) = read record := rfl

@[simp] theorem evaluate_not (operand : Node ρ) :
    evaluate record operand.not = (evaluate record operand).negation := rfl

@[simp] theorem evaluate_nullTest (operand : Node ρ) (negated : Bool) :
    evaluate record (nullTest operand negated)
      = .bool ((evaluate record operand).isNull != negated) := rfl

/-- The value of a connective is that of its truth table, although not all of it may be evaluated. -/
@[simp] theorem evaluate_connective (left right : Node ρ) (c : Connective) :
    evaluate record (connective left c right)
      = .ofTruth (Value.connect c (evaluate record left).truth? (evaluate record right).truth?) := by
  rw [evaluate, trace, Logged.value_bind, ← evaluate]
  split
  · rename_i hdecides
    rw [hdecides, Value.connect_decisive]
    rfl
  · rfl

@[simp] theorem evaluate_comparison (left right : Node ρ) (c : Comparison) :
    evaluate record (comparison left c right)
      = Value.comparison c (evaluate record left) (evaluate record right) := rfl

@[simp] theorem evaluate_arithmetic (left right : Node ρ) (a : Arithmetic) :
    evaluate record (arithmetic left a right)
      = Value.arithmetic a (evaluate record left) (evaluate record right) := rfl

@[simp] theorem evaluate_call (function : Function) (args : List (Node ρ)) :
    evaluate record (call function args) = Value.call function (evaluateArgs record args) := rfl

@[simp] theorem evaluateArgs_nil : evaluateArgs record [] = [] := rfl

@[simp] theorem evaluateArgs_cons (arg : Node ρ) (rest : List (Node ρ)) :
    evaluateArgs record (arg :: rest) = evaluate record arg :: evaluateArgs record rest := rfl

@[simp] theorem reads_literal (value : Value) : reads record (literal value) = [] := rfl

@[simp] theorem reads_property (name : String) (read : ρ → Value) :
    reads record (property name read) = [name] := rfl

@[simp] theorem reads_not (operand : Node ρ) : reads record operand.not = reads record operand := by
  simp [reads, trace]

@[simp] theorem reads_nullTest (operand : Node ρ) (negated : Bool) :
    reads record (nullTest operand negated) = reads record operand := by
  simp [reads, trace]

@[simp] theorem reads_connective (left right : Node ρ) (c : Connective) :
    reads record (connective left c right)
      = reads record left
        ++ if (evaluate record left).truth? = some (Value.decisive c) then []
          else reads record right := by
  rw [reads, trace, Logged.log_bind, ← evaluate]
  split <;> simp [reads]

@[simp] theorem reads_comparison (left right : Node ρ) (c : Comparison) :
    reads record (comparison left c right) = reads record left ++ reads record right := by
  simp [reads, trace]

@[simp] theorem reads_arithmetic (left right : Node ρ) (a : Arithmetic) :
    reads record (arithmetic left a right) = reads record left ++ reads record right := by
  simp [reads, trace]

@[simp] theorem reads_call (function : Function) (args : List (Node ρ)) :
    reads record (call function args) = readsOfArgs record args := by
  simp [reads, readsOfArgs, trace]

@[simp] theorem readsOfArgs_nil : readsOfArgs record [] = [] := rfl

@[simp] theorem readsOfArgs_cons (arg : Node ρ) (rest : List (Node ρ)) :
    readsOfArgs record (arg :: rest) = reads record arg ++ readsOfArgs record rest := by
  simp [reads, readsOfArgs, traceArgs]

end Equations

/-- The truth value of a filter on a record, if it is known. -/
def verdict (filter : Node ρ) (record : ρ) : Option Bool :=
  (evaluate record filter).truth?

/-- Test a record against a filter.  An unknown filter does not hold. -/
def test (filter : Node ρ) (record : ρ) : Logged String Bool := do
  let value ← trace record filter
  pure (value.truth? == some true)

/-- Does the filter hold for a record. -/
def selects (filter : Node ρ) (record : ρ) : Bool :=
  (filter.test record).value

/-- A test reads what evaluation reads. -/
theorem log_test (filter : Node ρ) (record : ρ) : (filter.test record).log = filter.reads record :=
  List.append_nil (filter.reads record)

theorem selects_eq (filter : Node ρ) (record : ρ) :
    filter.selects record = (filter.verdict record == some true) := rfl

end Node
end ODataQuery
