import ODataQuery.Proofs.Expression.Typing
import ODataQuery.Records.Selection

/-!
# What has a type can be resolved

Resolution fails for want of a property only.  Typing looks properties up in the schema of a binding,
and resolution in the binding itself.  The two know the same properties, so an expression with a type
can be evaluated on records.

* `Binding.isSome_reader?`: what can be read are the properties of the schema.
* `Node.resolve_not_eq_ok` and its like: what a resolved expression consists of.
* `Node.exists_resolve`: an expression resolves if its properties can be read, and so does a typed
  one (`Node.resolve_of_infer`).
* `Selection.exists_resolveKeys`: an ordering by properties that can be read resolves.
-/

set_option autoImplicit false

namespace ODataQuery

variable {ρ : Type}

@[simp] theorem Value.truth?_ofTruth (truth : Option Bool) : (ofTruth truth).truth? = truth := by
  cases truth <;> rfl

namespace Binding

theorem property?_schema (binding : Binding ρ) (name : String) :
    binding.schema.property? name = (binding.properties.get? name).map BoundProperty.property := by
  rw [schema, Schema.property?, Dictionary.get?_mapValues]

theorem reader_eq_ok {binding : Binding ρ} {name : String} {read : ρ → Value} :
    binding.reader name = .ok read ↔ binding.reader? name = some read := by
  rw [reader]
  cases binding.reader? name <;> simp

/-- What can be read are the properties of the schema. -/
theorem isSome_reader? (binding : Binding ρ) (name : String) :
    (binding.reader? name).isSome = (binding.schema.property? name).isSome := by
  rw [property?_schema, reader?, Option.isSome_map, Option.isSome_map]

theorem exists_reader_of_isSome {binding : Binding ρ} {name : String}
    (h : (binding.reader? name).isSome) : ∃ read, binding.reader name = .ok read := by
  obtain ⟨read, hread⟩ := Option.isSome_iff_exists.1 h
  exact ⟨read, reader_eq_ok.2 hread⟩

/-- A property of the schema can be read. -/
theorem exists_reader {binding : Binding ρ} {name : String} {declared : Property}
    (h : binding.schema.property? name = some declared) :
    ∃ read, binding.reader name = .ok read :=
  exists_reader_of_isSome (by rw [isSome_reader?, h, Option.isSome_some])

end Binding

namespace Node

variable {binding : Binding ρ}

attribute [local simp] resolve

/-- The arguments of a call are resolved one by one. -/
theorem resolveArgs_eq_ok {args : List Expression} {nodes : List (Node ρ)} :
    resolveArgs binding args = .ok nodes
      ↔ List.Forall₂ (fun arg node => resolve binding arg = .ok node) args nodes := by
  induction args generalizing nodes with
  | nil =>
    rw [resolveArgs, List.forall₂_nil_left_iff]
    simp [eq_comm]
  | cons arg rest ih =>
    rw [resolveArgs, List.forall₂_cons_left_iff]
    simp only [bind_eq_ok, ih, Except.ok.injEq]
    constructor
    · rintro ⟨node, hnode, nodes, hnodes, rfl⟩
      exact ⟨node, nodes, hnode, hnodes, rfl⟩
    · rintro ⟨node, nodes, hnode, hnodes, rfl⟩
      exact ⟨node, hnode, nodes, hnodes, rfl⟩

theorem resolve_literal_eq_ok {value : Value} {node : Node ρ} :
    resolve binding (.literal value) = .ok node ↔ .literal value = node := by
  rw [resolve, Except.ok.injEq]

theorem resolve_property_eq_ok {name : String} {node : Node ρ} :
    resolve binding (.property name) = .ok node
      ↔ ∃ read, binding.reader name = .ok read ∧ .property name read = node := by
  rw [resolve, map_eq_ok]

theorem resolve_not_eq_ok {operand : Expression} {node : Node ρ} :
    resolve binding operand.not = .ok node
      ↔ ∃ operandNode, resolve binding operand = .ok operandNode ∧ operandNode.not = node := by
  rw [resolve, map_eq_ok]

theorem resolve_connective_eq_ok {left right : Expression} {c : Connective} {node : Node ρ} :
    resolve binding (.binary left (.connective c) right) = .ok node
      ↔ ∃ leftNode rightNode, resolve binding left = .ok leftNode
        ∧ resolve binding right = .ok rightNode ∧ .connective leftNode c rightNode = node := by
  simp only [resolve, bind_eq_ok, Except.ok.injEq, exists_and_left]

theorem resolve_arithmetic_eq_ok {left right : Expression} {a : Arithmetic} {node : Node ρ} :
    resolve binding (.binary left (.arithmetic a) right) = .ok node
      ↔ ∃ leftNode rightNode, resolve binding left = .ok leftNode
        ∧ resolve binding right = .ok rightNode ∧ .arithmetic leftNode a rightNode = node := by
  simp only [resolve, bind_eq_ok, Except.ok.injEq, exists_and_left]

/-- A comparison becomes a null test of one of its operands, or stays a comparison. -/
theorem resolve_comparison_eq_ok {left right : Expression} {c : Comparison} {node : Node ρ}
    (h : resolve binding (.binary left (.comparison c) right) = .ok node) :
    (∃ operandNode negated, .nullTest operandNode negated = node)
      ∨ ∃ leftNode rightNode, .comparison leftNode c rightNode = node := by
  rw [resolve] at h
  split at h
  · obtain ⟨operandNode, -, rfl⟩ := map_eq_ok.1 h
    exact .inl ⟨operandNode, _, rfl⟩
  · obtain ⟨operandNode, -, rfl⟩ := map_eq_ok.1 h
    exact .inl ⟨operandNode, _, rfl⟩
  · obtain ⟨leftNode, -, h⟩ := bind_eq_ok.1 h
    obtain ⟨rightNode, -, h⟩ := bind_eq_ok.1 h
    cases h
    exact .inr ⟨leftNode, rightNode, rfl⟩

/-- Where nothing is asked about null, both operands of a comparison are resolved. -/
theorem resolve_comparison_of_nullTest? {left right : Expression} {c : Comparison}
    (h : c.nullTest? left right = none) {node : Node ρ} :
    resolve binding (.binary left (.comparison c) right) = .ok node
      ↔ ∃ leftNode rightNode, resolve binding left = .ok leftNode
        ∧ resolve binding right = .ok rightNode ∧ .comparison leftNode c rightNode = node := by
  rw [resolve, h]
  simp only [bind_eq_ok, Except.ok.injEq, exists_and_left]

theorem resolve_call_eq_ok {function : Function} {args : List Expression} {node : Node ρ} :
    resolve binding (.call function args) = .ok node
      ↔ ∃ nodes, List.Forall₂ (fun arg node => resolve binding arg = .ok node) args nodes
        ∧ .call function nodes = node := by
  simp only [resolve, map_eq_ok, resolveArgs_eq_ok]

/-- Arguments that can each be resolved can be resolved together. -/
theorem exists_resolveArgs {args : List Expression}
    (h : ∀ arg ∈ args, ∃ node, resolve binding arg = .ok node) :
    ∃ nodes, resolveArgs binding args = .ok nodes := by
  induction args with
  | nil => exact ⟨[], rfl⟩
  | cons arg rest ih =>
    obtain ⟨node, hnode⟩ := h arg List.mem_cons_self
    obtain ⟨nodes, hnodes⟩ := ih fun other hmem => h other (List.mem_cons_of_mem _ hmem)
    exact ⟨node :: nodes,
      resolveArgs_eq_ok.2 (.cons hnode (resolveArgs_eq_ok.1 hnodes))⟩

/-- **An expression resolves if its properties can be read.** -/
theorem exists_resolve {e : Expression}
    (h : ∀ name, .property name ∈ e.parts → (binding.reader? name).isSome) :
    ∃ node, resolve binding e = .ok node := by
  induction e using Expression.induction with
  | literal value => exact ⟨.literal value, by rw [resolve]⟩
  | property name =>
    obtain ⟨read, hread⟩ := Binding.exists_reader_of_isSome (h name (Expression.self_mem_parts _))
    exact ⟨.property name read, by rw [resolve, hread]; rfl⟩
  | not operand ih =>
    obtain ⟨node, hnode⟩ := ih fun name hname => h name (Expression.operand_parts_subset _ hname)
    exact ⟨.not node, by rw [resolve, hnode]; rfl⟩
  | binary left operator right ihleft ihright =>
    obtain ⟨leftNode, hleftNode⟩ :=
      ihleft fun name hname => h name (Expression.left_parts_subset _ _ _ hname)
    obtain ⟨rightNode, hrightNode⟩ :=
      ihright fun name hname => h name (Expression.right_parts_subset _ _ _ hname)
    cases operator with
    | comparison c =>
      rw [resolve]
      -- a null test resolves only the operand that it asks about
      rcases c.nullTest? left right with _ | ⟨side, negated⟩
      · exact ⟨.comparison leftNode c rightNode, by rw [hleftNode, hrightNode]; rfl⟩
      · cases side with
        | left => exact ⟨.nullTest leftNode negated, by rw [hleftNode]; rfl⟩
        | right => exact ⟨.nullTest rightNode negated, by rw [hrightNode]; rfl⟩
    | connective c =>
      exact ⟨.connective leftNode c rightNode, by rw [resolve, hleftNode, hrightNode]; rfl⟩
    | arithmetic a =>
      exact ⟨.arithmetic leftNode a rightNode, by rw [resolve, hleftNode, hrightNode]; rfl⟩
  | call function args ih =>
    have hargs : ∀ arg ∈ args, ∃ node, resolve binding arg = .ok node := fun arg harg =>
      ih arg harg fun name hname => h name (Expression.arg_parts_subset _ harg hname)
    obtain ⟨nodes, hnodes⟩ := exists_resolveArgs hargs
    exact ⟨.call function nodes, by rw [resolve, hnodes]; rfl⟩

/-- **A typed expression resolves.** -/
theorem resolve_of_infer {e : Expression} {type : StaticType}
    (h : e.infer binding.schema = .ok type) : ∃ node, resolve binding e = .ok node := by
  refine exists_resolve fun name hname => ?_
  rw [Binding.isSome_reader?]
  exact Expression.isSome_property_of_infer h hname

end Node

namespace Selection

variable {binding : Binding ρ}

theorem resolveKeys_cons_eq_ok {key : SortKey} {rest : List SortKey}
    {resolved : List (ResolvedKey ρ)} :
    resolveKeys binding (key :: rest) = .ok resolved
      ↔ ∃ read resolvedRest, binding.reader key.property = .ok read
        ∧ resolveKeys binding rest = .ok resolvedRest
        ∧ resolved = ⟨key.property, read, key.direction⟩ :: resolvedRest := by
  rw [resolveKeys]
  simp only [bind_eq_ok, Except.ok.injEq]
  constructor
  · rintro ⟨read, hread, resolvedRest, hrest, rfl⟩
    exact ⟨read, resolvedRest, hread, hrest, rfl⟩
  · rintro ⟨read, resolvedRest, hread, hrest, rfl⟩
    exact ⟨read, hread, resolvedRest, hrest, rfl⟩

theorem resolveKeys_eq_ok_nil {keys : List SortKey} :
    resolveKeys binding keys = .ok [] ↔ keys = [] := by
  constructor
  · intro h
    cases keys with
    | nil => rfl
    | cons key rest =>
      obtain ⟨_, _, -, -, hcons⟩ := resolveKeys_cons_eq_ok.1 h
      cases hcons
  · rintro rfl
    rfl

/-- An ordering by properties that can be read resolves. -/
theorem exists_resolveKeys {keys : List SortKey}
    (h : ∀ key ∈ keys, (binding.reader? key.property).isSome) :
    ∃ resolved, resolveKeys binding keys = .ok resolved := by
  induction keys with
  | nil => exact ⟨[], rfl⟩
  | cons key rest ih =>
    obtain ⟨read, hread⟩ := Binding.exists_reader_of_isSome (h key List.mem_cons_self)
    obtain ⟨resolved, hresolved⟩ := ih fun other hother => h other (List.mem_cons_of_mem key hother)
    exact ⟨_, resolveKeys_cons_eq_ok.2 ⟨read, resolved, hread, hresolved, rfl⟩⟩

end Selection

end ODataQuery
