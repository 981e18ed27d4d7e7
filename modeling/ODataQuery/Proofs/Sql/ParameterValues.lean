import ODataQuery.Sql.Writer

/-!
# The values of parameters

A term, a select or a fragment keeps its shape when the values of its parameters are replaced by
others.  Writing looks at the shape only: whatever the values are replaced by, the text is the same,
and so are the number and the names of the parameters.

* `Term.mapValues`, `Select.mapValues`, `Piece.mapValue`: other values for the parameters.
* `Term.fragment_mapValues`, `Select.fragment_mapValues`: the fragment of a term, or a select, with
  other values is its fragment with other values.
* `Fragment.toStatement_map`, `Select.toStatement_mapValues`: so its statement has the same text,
  and the same parameters but for their values.
-/

set_option autoImplicit false

namespace ODataQuery
namespace Sql

/-! ## Other values -/

mutual

/-- A term with other values for its parameters. -/
def Term.mapValues (f : Value → Value) : Term → Term
  | .and left right => .and (left.mapValues f) (right.mapValues f)
  | .or left right => .or (left.mapValues f) (right.mapValues f)
  | .not operand => .not (operand.mapValues f)
  | .binary left operator right => .binary (left.mapValues f) operator (right.mapValues f)
  | .isNull operand => .isNull (operand.mapValues f)
  | .isNotNull operand => .isNotNull (operand.mapValues f)
  | .like subject pattern escape => .like (subject.mapValues f) (pattern.mapValues f) escape
  | .call function args => .call function (argsMapValues f args)
  | .part part operand => .part part (operand.mapValues f)
  | .column table name => .column table name
  | .bool b => .bool b
  | .integer i => .integer i
  | .parameter value => .parameter (f value)
  | .countAll => .countAll
  | .rowNumber keys => .rowNumber (keysMapValues f keys)

/-- Arguments with other values for their parameters. -/
def argsMapValues (f : Value → Value) : List Term → List Term
  | [] => []
  | arg :: rest => arg.mapValues f :: argsMapValues f rest

/-- The keys of an ordering with other values for their parameters. -/
def keysMapValues (f : Value → Value) : List (Term × Direction) → List (Term × Direction)
  | [] => []
  | (target, direction) :: rest => (target.mapValues f, direction) :: keysMapValues f rest

end

theorem argsMapValues_eq_map (f : Value → Value) (args : List Term) :
    argsMapValues f args = args.map (Term.mapValues f) := by
  induction args with
  | nil => rfl
  | cons arg rest ih => rw [argsMapValues, ih, List.map_cons]

/-- What a select returns, with other values for the parameters. -/
def Selection.mapValues (f : Value → Value) : Selection → Selection
  | .columns terms => .columns (terms.map fun (aliasName, term) => (aliasName, term.mapValues f))
  | .star => .star
  | .starOf table => .starOf table
  | .both first second => .both (first.mapValues f) (second.mapValues f)

/-- A select with other values for its parameters. -/
def Select.mapValues (f : Value → Value) : Select → Select
  | ⟨selection, relation, condition, orderBy, limit, offset⟩ =>
    let relation : Option (Relation Select) := match relation with
      | none => none
      | some (.table table aliasName) => some (.table table aliasName)
      | some (.select select aliasName) => some (.select (select.mapValues f) aliasName)
      | some (.raw sql aliasName) => some (.raw sql aliasName)
    ⟨selection.mapValues f, relation, condition.mapValues f, keysMapValues f orderBy, limit, offset⟩

/-- Another select in the place of a select that rows come from. -/
def Relation.map {σ τ : Type} (f : σ → τ) : Relation σ → Relation τ
  | .table name aliasName => .table name aliasName
  | .select inner aliasName => .select (f inner) aliasName
  | .raw sql aliasName => .raw sql aliasName

theorem Select.mapValues_eq (f : Value → Value) (select : Select) : select.mapValues f
    = { select with
        selection := select.selection.mapValues f
        relation := select.relation.map (Relation.map (mapValues f))
        condition := select.condition.mapValues f
        orderBy := keysMapValues f select.orderBy } := by
  match select with
  | ⟨_, none, _, _, _, _⟩ | ⟨_, some (.table _ _), _, _, _, _⟩
  | ⟨_, some (.select _ _), _, _, _, _⟩ | ⟨_, some (.raw _ _), _, _, _, _⟩ =>
    simp only [mapValues, Option.map_none, Option.map_some, Relation.map]

/-- A piece of SQL text with another value, if it is a parameter. -/
def Piece.mapValue (f : Value → Value) : Piece → Piece
  | verbatim text => verbatim text
  | identifier name => identifier name
  | parameter value => parameter (f value)

/-- A statement with other values for its parameters. -/
def Statement.mapValues (f : Value → Value) (statement : Statement) : Statement :=
  { statement with
    parameters := statement.parameters.map fun bound => { bound with value := f bound.value } }

theorem Statement.names_mapValues (f : Value → Value) (statement : Statement) :
    (statement.mapValues f).parameters.map BoundValue.name
      = statement.parameters.map BoundValue.name := by
  rw [mapValues, List.map_map]
  rfl

variable (style : FunctionStyle) (dialect : Dialect) (f : Value → Value)

/-! ## Fragments -/

theorem TableRef.fragment_map (table : TableRef) :
    table.fragment.map (Piece.mapValue f) = table.fragment := by
  cases table <;> rfl

mutual

/-- **Writing a term looks at its shape only.** -/
theorem Term.fragment_mapValues (term : Term) :
    (term.mapValues f).fragment style = (term.fragment style).map (Piece.mapValue f) := by
  match term with
  | .and left right | .or left right | .binary left _ right | .like left right _ =>
    simp [Term.mapValues, Term.fragment, Term.fragment_mapValues left,
      Term.fragment_mapValues right, Fragment.ofText, Piece.mapValue]
  | .not operand | .isNull operand | .isNotNull operand | .part _ operand =>
    simp [Term.mapValues, Term.fragment, Term.fragment_mapValues operand, Fragment.ofText,
      Piece.mapValue]
  | .call function args =>
    rw [Term.mapValues, Term.fragment, Term.fragment]
    split <;>
      simp [argsTerminated_mapValues args, argsSeparated_mapValues args, Fragment.ofText,
        Piece.mapValue]
  | .column table name =>
    simp [Term.mapValues, Term.fragment, table.fragment_map f, Piece.mapValue]
  | .bool _ | .integer _ | .parameter _ | .countAll => rfl
  | .rowNumber keys =>
    simp [Term.mapValues, Term.fragment, keysFragment_mapValues keys, Fragment.ofText,
      Piece.mapValue]

theorem argsSeparated_mapValues (args : List Term) :
    argsSeparated style (argsMapValues f args)
      = (argsSeparated style args).map (Piece.mapValue f) := by
  match args with
  | [] => rfl
  | [arg] => simp [argsMapValues, argsSeparated, Term.fragment_mapValues arg]
  | arg :: second :: rest =>
    have hrest := argsSeparated_mapValues (second :: rest)
    rw [argsMapValues] at hrest
    simp [argsMapValues, argsSeparated, Term.fragment_mapValues arg, hrest, Piece.mapValue]

theorem argsTerminated_mapValues (args : List Term) :
    argsTerminated style (argsMapValues f args)
      = (argsTerminated style args).map (Piece.mapValue f) := by
  match args with
  | [] => rfl
  | arg :: rest =>
    simp [argsMapValues, argsTerminated, Term.fragment_mapValues arg,
      argsTerminated_mapValues rest, Piece.mapValue]

theorem keysFragment_mapValues (keys : List (Term × Direction)) :
    keysFragment style (keysMapValues f keys)
      = (keysFragment style keys).map (Piece.mapValue f) := by
  match keys with
  | [] => rfl
  | [(target, direction)] =>
    simp [keysMapValues, keysFragment, Term.fragment_mapValues target, Fragment.ofText,
      Piece.mapValue]
  | (target, direction) :: (second, next) :: rest =>
    have hrest := keysFragment_mapValues ((second, next) :: rest)
    rw [keysMapValues] at hrest
    simp [keysMapValues, keysFragment, Term.fragment_mapValues target, hrest, Piece.mapValue]

end

theorem Fragment.commaSeparated_map (fragments : List Fragment) :
    (commaSeparated fragments).map (Piece.mapValue f)
      = commaSeparated (fragments.map (List.map (Piece.mapValue f))) := by
  induction fragments with
  | nil => rfl
  | cons fragment rest ih =>
    cases rest with
    | nil => rfl
    | cons next rest =>
      simp only [List.map_cons] at ih ⊢
      simp only [commaSeparated, ← ih, List.map_append, List.map_cons, Piece.mapValue]

theorem Selection.fragment_mapValues (selection : Selection) :
    (selection.mapValues f).fragment style
      = (selection.fragment style).map (Piece.mapValue f) := by
  induction selection with
  | columns terms =>
    simp only [mapValues, Selection.fragment, Fragment.commaSeparated_map, List.map_map]
    congr 2
    funext column
    simp [Term.fragment_mapValues, Piece.mapValue]
  | star => rfl
  | starOf table =>
    simp [mapValues, Selection.fragment, TableRef.fragment_map, Fragment.ofText, Piece.mapValue]
  | both first second hfirst hsecond =>
    simp [mapValues, Selection.fragment, hfirst, hsecond, Piece.mapValue]

/-- Other values make no condition one that is left out, or the other way round. -/
theorem conditionFragment_mapValues (condition : Term) :
    conditionFragment style (condition.mapValues f)
      = (conditionFragment style condition).map (Piece.mapValue f) := by
  by_cases h : condition = .bool true
  · rw [h]
    rfl
  · have hmapped : condition.mapValues f ≠ .bool true := by
      cases condition <;> simp_all [Term.mapValues]
    rw [conditionFragment, conditionFragment, List.map_cons, Term.fragment_mapValues,
      Piece.mapValue]
    · exact h
    · exact hmapped

theorem orderByFragment_mapValues (keys : List (Term × Direction)) :
    orderByFragment style (keysMapValues f keys)
      = (orderByFragment style keys).map (Piece.mapValue f) := by
  match keys with
  | [] => rfl
  | (target, direction) :: rest =>
    have hkeys := keysFragment_mapValues style f ((target, direction) :: rest)
    rw [keysMapValues] at hkeys
    simp [keysMapValues, orderByFragment, hkeys, Piece.mapValue]

/-- **Writing a select looks at its shape only.** -/
theorem Select.fragment_mapValues (select : Select) :
    (select.mapValues f).fragment dialect = (select.fragment dialect).map (Piece.mapValue f) := by
  match select with
  | ⟨selection, relation, condition, orderBy, limit, offset⟩ =>
    have hselection := selection.fragment_mapValues dialect.functions f
    have hcondition := conditionFragment_mapValues dialect.functions f condition
    have horder := orderByFragment_mapValues dialect.functions f orderBy
    match relation with
    | none =>
      simp [Select.mapValues, Select.fragment, hselection, hcondition, horder, Fragment.ofText,
        Piece.mapValue]
    | some (.table table aliasName) =>
      simp [Select.mapValues, Select.fragment, hselection, hcondition, horder,
        TableRef.fragment_map, Fragment.ofText, Piece.mapValue]
    | some (.select inner aliasName) =>
      simp [Select.mapValues, Select.fragment, hselection, hcondition, horder,
        Select.fragment_mapValues inner, Fragment.ofText, Piece.mapValue]
    | some (.raw sql aliasName) =>
      simp [Select.mapValues, Select.fragment, hselection, hcondition, horder, Fragment.ofText,
        Piece.mapValue]

/-! ## Statements -/

namespace Fragment

theorem charsFrom_map (number : Nat) (fragment : Fragment) :
    charsFrom dialect number (fragment.map (Piece.mapValue f))
      = charsFrom dialect number fragment := by
  induction fragment generalizing number with
  | nil => rfl
  | cons piece rest ih => cases piece <;> simp [Piece.mapValue, charsFrom, ih]

theorem parameters_map (fragment : Fragment) :
    parameters (fragment.map (Piece.mapValue f)) = (parameters fragment).map f := by
  induction fragment with
  | nil => rfl
  | cons piece rest ih => cases piece <;> simp [Piece.mapValue, parameters, ih]

end Fragment

theorem nameParameters_map (number : Nat) (values : List Value) :
    nameParameters number (values.map f)
      = (nameParameters number values).map fun bound => { bound with value := f bound.value } := by
  induction values generalizing number with
  | nil => rfl
  | cons value rest ih => simp [nameParameters, ih]

/-- **The text of a statement does not depend on the values of its parameters.** -/
theorem Fragment.toStatement_map (fragment : Fragment) :
    Fragment.toStatement dialect (fragment.map (Piece.mapValue f))
      = (Fragment.toStatement dialect fragment).mapValues f := by
  rw [Fragment.toStatement, Fragment.toStatement, Fragment.text, charsFrom_map, parameters_map,
    nameParameters_map, Fragment.text, Statement.mapValues]

theorem Select.toStatement_mapValues (select : Select) :
    (select.mapValues f).toStatement dialect = (select.toStatement dialect).mapValues f := by
  rw [Select.toStatement, Select.toStatement, Select.fragment_mapValues, Fragment.toStatement_map]

end Sql
end ODataQuery
