import ODataQuery.Proofs.Records.Resolution

/-!
# What evaluation reads

Evaluation goes through a filter from left to right and reads properties as it meets them.  It is
told here once more as a relation between an expression, its value and the properties that are read
for it in order, in which the one thing that saves reads can be seen: a connective whose left operand
decides does not look at the right one.

* `Expression.Evaluates`, `Expression.EvaluatesAll`: evaluation of an expression, and of the
  arguments of a call one after the other.
* `Node.evaluates`: a resolved expression evaluates to its value, with its reads.
* `Expression.Evaluates.eq`: it evaluates to nothing else, and with no other reads.
* `Node.evaluates_iff`: both together.
-/

set_option autoImplicit false

namespace ODataQuery

variable {ρ : Type}

/-- One of two operands. -/
def Side.operand {α : Type} (left right : α) : Side → α
  | .left => left
  | .right => right

namespace Expression

mutual

/-- The evaluation of an expression on a record, from left to right: its value, and the properties
that are read for it in order. -/
inductive Evaluates (binding : Binding ρ) (record : ρ) : Expression → Value → List String → Prop where
  | literal (value : Value) : Evaluates binding record (.literal value) value []
  | property {name : String} {read : ρ → Value} (hread : binding.reader name = .ok read) :
    Evaluates binding record (.property name) (read record) [name]
  | not {operand : Expression} {value : Value} {reads : List String}
    (hoperand : Evaluates binding record operand value reads) :
    Evaluates binding record operand.not value.negation reads
  /-- A null test looks at the operand that it asks about. -/
  | nullTest {left right : Expression} {c : Comparison} {side : Side} {negated : Bool}
    {value : Value} {reads : List String} (htest : c.nullTest? left right = some (side, negated))
    (hoperand : Evaluates binding record (side.operand left right) value reads) :
    Evaluates binding record (.binary left (.comparison c) right) (.bool (value.isNull != negated))
      reads
  | comparison {left right : Expression} {c : Comparison} {leftValue rightValue : Value}
    {leftReads rightReads : List String} (htest : c.nullTest? left right = none)
    (hleft : Evaluates binding record left leftValue leftReads)
    (hright : Evaluates binding record right rightValue rightReads) :
    Evaluates binding record (.binary left (.comparison c) right)
      (Value.comparison c leftValue rightValue) (leftReads ++ rightReads)
  | arithmetic {left right : Expression} {a : Arithmetic} {leftValue rightValue : Value}
    {leftReads rightReads : List String}
    (hleft : Evaluates binding record left leftValue leftReads)
    (hright : Evaluates binding record right rightValue rightReads) :
    Evaluates binding record (.binary left (.arithmetic a) right)
      (Value.arithmetic a leftValue rightValue) (leftReads ++ rightReads)
  /-- A conjunction whose left operand is false, and a disjunction whose left operand is true, do not
  look at the right one. -/
  | decided {left right : Expression} {c : Connective} {leftReads : List String}
    (hleft : Evaluates binding record left (.bool (Value.decisive c)) leftReads) :
    Evaluates binding record (.binary left (.connective c) right) (.bool (Value.decisive c)) leftReads
  | undecided {left right : Expression} {c : Connective} {leftValue rightValue : Value}
    {leftReads rightReads : List String}
    (hleft : Evaluates binding record left leftValue leftReads)
    (hopen : leftValue ≠ .bool (Value.decisive c))
    (hright : Evaluates binding record right rightValue rightReads) :
    Evaluates binding record (.binary left (.connective c) right)
      (.ofTruth (Value.connect c leftValue.truth? rightValue.truth?)) (leftReads ++ rightReads)
  | call {function : Function} {args : List Expression} {values : List Value}
    {reads : List String} (hargs : EvaluatesAll binding record args values reads) :
    Evaluates binding record (.call function args) (Value.call function values) reads

/-- The evaluation of the arguments of a call, one after the other. -/
inductive EvaluatesAll (binding : Binding ρ) (record : ρ) :
    List Expression → List Value → List String → Prop where
  | nil : EvaluatesAll binding record [] [] []
  | cons {arg : Expression} {rest : List Expression} {value : Value} {values : List Value}
    {reads restReads : List String} (harg : Evaluates binding record arg value reads)
    (hrest : EvaluatesAll binding record rest values restReads) :
    EvaluatesAll binding record (arg :: rest) (value :: values) (reads ++ restReads)

end

end Expression

/-! ## Connectives -/

namespace Value

theorem truth?_eq_some_iff {value : Value} {b : Bool} : value.truth? = some b ↔ value = .bool b := by
  cases value <;> simp [truth?]

end Value

namespace Node

variable {binding : Binding ρ} {record : ρ}

/-- A connective whose left operand decides has its value, and reads nothing more. -/
theorem decided {left right : Node ρ} {c : Connective}
    (h : left.evaluate record = .bool (Value.decisive c)) :
    (connective left c right).evaluate record = .bool (Value.decisive c)
      ∧ (connective left c right).reads record = left.reads record := by
  have htruth := Value.truth?_eq_some_iff.2 h
  refine ⟨?_, ?_⟩
  · rw [evaluate_connective, htruth, Value.connect_decisive, Value.ofTruth]
  · rw [reads_connective, if_pos htruth, List.append_nil]

theorem reads_undecided {left right : Node ρ} {c : Connective}
    (h : left.evaluate record ≠ .bool (Value.decisive c)) :
    (connective left c right).reads record = left.reads record ++ right.reads record := by
  rw [reads_connective, if_neg (mt Value.truth?_eq_some_iff.1 h)]

/-! ## Evaluation -/

/-- A null test is resolved to one of the operand that it asks about. -/
theorem resolve_nullTest_eq_ok {left right : Expression} {c : Comparison} {side : Side}
    {negated : Bool} (htest : c.nullTest? left right = some (side, negated)) {node : Node ρ} :
    resolve binding (.binary left (.comparison c) right) = .ok node
      ↔ ∃ operandNode, resolve binding (side.operand left right) = .ok operandNode
        ∧ nullTest operandNode negated = node := by
  rw [resolve, htest]
  cases side <;> exact map_eq_ok

theorem evaluatesAll {args : List Expression} {nodes : List (Node ρ)}
    (hnodes : List.Forall₂ (fun arg node => resolve binding arg = .ok node) args nodes)
    (heach : ∀ arg ∈ args, ∀ node, resolve binding arg = .ok node →
      arg.Evaluates binding record (node.evaluate record) (node.reads record)) :
    Expression.EvaluatesAll binding record args (evaluateArgs record nodes)
      (readsOfArgs record nodes) := by
  induction hnodes with
  | nil => exact .nil
  | cons hnode _ ih =>
    rw [evaluateArgs_cons, readsOfArgs_cons]
    refine .cons (heach _ List.mem_cons_self _ hnode) (ih fun arg harg => ?_)
    exact heach arg (List.mem_cons_of_mem _ harg)

/-- **A resolved expression evaluates to its value, with its reads.** -/
theorem evaluates {e : Expression} {node : Node ρ} (hnode : resolve binding e = .ok node) :
    e.Evaluates binding record (node.evaluate record) (node.reads record) := by
  induction e using Expression.induction generalizing node with
  | literal value =>
    obtain rfl := resolve_literal_eq_ok.1 hnode
    exact .literal value
  | property name =>
    obtain ⟨read, hread, rfl⟩ := resolve_property_eq_ok.1 hnode
    exact .property hread
  | not operand ih =>
    obtain ⟨operandNode, hoperandNode, rfl⟩ := resolve_not_eq_ok.1 hnode
    rw [evaluate_not, reads_not]
    exact .not (ih hoperandNode)
  | binary left operator right ihleft ihright =>
    cases operator with
    | comparison c =>
      rcases htest : c.nullTest? left right with _ | ⟨side, negated⟩
      · obtain ⟨leftNode, rightNode, hleftNode, hrightNode, rfl⟩ :=
          (resolve_comparison_of_nullTest? htest).1 hnode
        rw [evaluate_comparison, reads_comparison]
        exact .comparison htest (ihleft hleftNode) (ihright hrightNode)
      · obtain ⟨operandNode, hoperandNode, rfl⟩ := (resolve_nullTest_eq_ok htest).1 hnode
        rw [evaluate_nullTest, reads_nullTest]
        refine .nullTest htest ?_
        cases side with
        | left => exact ihleft hoperandNode
        | right => exact ihright hoperandNode
    | connective c =>
      obtain ⟨leftNode, rightNode, hleftNode, hrightNode, rfl⟩ :=
        resolve_connective_eq_ok.1 hnode
      have hleft := ihleft hleftNode
      by_cases hdecides : leftNode.evaluate record = .bool (Value.decisive c)
      · rw [hdecides] at hleft
        rw [(decided hdecides).1, (decided hdecides).2]
        exact .decided hleft
      · rw [reads_undecided hdecides, evaluate_connective]
        exact .undecided hleft hdecides (ihright hrightNode)
    | arithmetic a =>
      obtain ⟨leftNode, rightNode, hleftNode, hrightNode, rfl⟩ :=
        resolve_arithmetic_eq_ok.1 hnode
      rw [evaluate_arithmetic, reads_arithmetic]
      exact .arithmetic (ihleft hleftNode) (ihright hrightNode)
  | call function args ih =>
    obtain ⟨nodes, hnodes, rfl⟩ := resolve_call_eq_ok.1 hnode
    rw [evaluate_call, reads_call]
    exact .call (evaluatesAll hnodes fun arg harg _ hargNode => ih arg harg hargNode)

end Node

/-! ## Nothing else is evaluated -/

namespace Expression

variable {binding : Binding ρ} {record : ρ}

theorem EvaluatesAll.eq {args : List Expression} {values : List Value} {reads : List String}
    (h : EvaluatesAll binding record args values reads) {nodes : List (Node ρ)}
    (hnodes : List.Forall₂ (fun arg node => Node.resolve binding arg = .ok node) args nodes)
    (heach : ∀ arg ∈ args, ∀ value reads, arg.Evaluates binding record value reads →
      ∀ node, Node.resolve binding arg = .ok node →
        value = node.evaluate record ∧ reads = node.reads record) :
    values = Node.evaluateArgs record nodes ∧ reads = Node.readsOfArgs record nodes := by
  induction hnodes generalizing values reads with
  | nil =>
    cases h
    exact ⟨rfl, rfl⟩
  | cons hnode _ ih =>
    cases h with
    | cons harg hrest =>
      obtain ⟨rfl, rfl⟩ := heach _ List.mem_cons_self _ _ harg _ hnode
      obtain ⟨rfl, rfl⟩ := ih hrest fun arg hmem => heach arg (List.mem_cons_of_mem _ hmem)
      exact ⟨rfl, (Node.readsOfArgs_cons ..).symm⟩

/-- **A resolved expression evaluates to nothing but its value**, and with no other reads. -/
theorem Evaluates.eq {e : Expression} {value : Value} {reads : List String}
    (h : e.Evaluates binding record value reads) {node : Node ρ}
    (hnode : Node.resolve binding e = .ok node) :
    value = node.evaluate record ∧ reads = node.reads record := by
  induction e using Expression.induction generalizing value reads node with
  | literal value =>
    obtain rfl := Node.resolve_literal_eq_ok.1 hnode
    cases h
    exact ⟨rfl, rfl⟩
  | property name =>
    obtain ⟨read, hread, rfl⟩ := Node.resolve_property_eq_ok.1 hnode
    cases h with
    | property hread' =>
      cases hread.symm.trans hread'
      exact ⟨rfl, rfl⟩
  | not operand ih =>
    obtain ⟨operandNode, hoperandNode, rfl⟩ := Node.resolve_not_eq_ok.1 hnode
    cases h with
    | not hoperand =>
      obtain ⟨rfl, rfl⟩ := ih hoperand hoperandNode
      exact ⟨rfl, (Node.reads_not ..).symm⟩
  | binary left operator right ihleft ihright =>
    cases h with
    | nullTest htest hoperand =>
      rename_i c side negated operandValue
      obtain ⟨operandNode, hoperandNode, rfl⟩ := (Node.resolve_nullTest_eq_ok htest).1 hnode
      rw [Node.evaluate_nullTest, Node.reads_nullTest]
      cases side with
      | left =>
        obtain ⟨rfl, rfl⟩ := ihleft hoperand hoperandNode
        exact ⟨rfl, rfl⟩
      | right =>
        obtain ⟨rfl, rfl⟩ := ihright hoperand hoperandNode
        exact ⟨rfl, rfl⟩
    | comparison htest hleft hright =>
      obtain ⟨leftNode, rightNode, hleftNode, hrightNode, rfl⟩ :=
        (Node.resolve_comparison_of_nullTest? htest).1 hnode
      obtain ⟨rfl, rfl⟩ := ihleft hleft hleftNode
      obtain ⟨rfl, rfl⟩ := ihright hright hrightNode
      exact ⟨rfl, (Node.reads_comparison ..).symm⟩
    | arithmetic hleft hright =>
      obtain ⟨leftNode, rightNode, hleftNode, hrightNode, rfl⟩ :=
        Node.resolve_arithmetic_eq_ok.1 hnode
      obtain ⟨rfl, rfl⟩ := ihleft hleft hleftNode
      obtain ⟨rfl, rfl⟩ := ihright hright hrightNode
      exact ⟨rfl, (Node.reads_arithmetic ..).symm⟩
    | decided hleft =>
      obtain ⟨leftNode, rightNode, hleftNode, -, rfl⟩ := Node.resolve_connective_eq_ok.1 hnode
      obtain ⟨hvalue, rfl⟩ := ihleft hleft hleftNode
      exact ⟨(Node.decided hvalue.symm).1.symm, (Node.decided hvalue.symm).2.symm⟩
    | undecided hleft hopen hright =>
      obtain ⟨leftNode, rightNode, hleftNode, hrightNode, rfl⟩ :=
        Node.resolve_connective_eq_ok.1 hnode
      obtain ⟨rfl, rfl⟩ := ihleft hleft hleftNode
      obtain ⟨rfl, rfl⟩ := ihright hright hrightNode
      exact ⟨(Node.evaluate_connective ..).symm, (Node.reads_undecided hopen).symm⟩
  | call function args ih =>
    obtain ⟨nodes, hnodes, rfl⟩ := Node.resolve_call_eq_ok.1 hnode
    cases h with
    | call hargs =>
      obtain ⟨rfl, rfl⟩ := hargs.eq hnodes fun arg harg _ _ h _ hargNode => ih arg harg h hargNode
      exact ⟨rfl, (Node.reads_call ..).symm⟩

end Expression

/-- **Evaluation of a resolved expression**: one value, and one list of reads. -/
theorem Node.evaluates_iff {binding : Binding ρ} {record : ρ} {e : Expression} {node : Node ρ}
    (hnode : resolve binding e = .ok node) {value : Value} {reads : List String} :
    e.Evaluates binding record value reads
      ↔ value = node.evaluate record ∧ reads = node.reads record := by
  constructor
  · intro h
    exact h.eq hnode
  · rintro ⟨rfl, rfl⟩
    exact evaluates hnode

end ODataQuery
