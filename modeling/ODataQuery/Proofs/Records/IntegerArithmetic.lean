import Mathlib.Algebra.Group.Int.Defs
import ODataQuery.Proofs.Records.Absence

/-!
# Integer arithmetic is exact or unknown

Arithmetic on integers of 64 bits is arithmetic on the integers themselves: a result is the exact one
or it is unknown, never a number that was cut to fit.  What is unknown stays so, hence a result that
leaves the range on the way is not found again, even if what it is used for would fit.

* `Arithmetic.exactResult`: the result of an operation on integers of any size;
  `Arithmetic.Succeeds`: its result and, for a remainder, its quotient have 64 bits.
* `Value.integerResult?_eq_some_iff`: one operation gives the exact result if it succeeds.
* `Expression.exactValue`: the value of an expression on integers of any size.
* `Expression.IsExact`: nothing on the way to the value is absent, is divided by zero or leaves the
  range; `isExact_arithmetic_iff` takes it apart, one operation at a time.
* `Node.evaluate_integerArithmetic`: the value of a tree of such operations.
-/

set_option autoImplicit false

namespace ODataQuery

/-! ## The range -/

namespace Number

/-- The integer has 64 bits. -/
def InRange (n : Int) : Prop := -2 ^ 63 ≤ n ∧ n < 2 ^ 63

instance (n : Int) : Decidable (InRange n) :=
  inferInstanceAs (Decidable (_ ∧ _))

theorem inRange_toInt (i : Int64) : InRange i.toInt :=
  ⟨i.le_toInt, i.toInt_lt⟩

/-- The integers in the range are those that 64-bit integers stand for. -/
theorem inRange_iff_exists {n : Int} : InRange n ↔ ∃ i : Int64, i.toInt = n := by
  constructor
  · rintro ⟨hlow, hhigh⟩
    refine ⟨Int64.ofInt n, toInt_ofInt_of_inRange ?_ ?_⟩
    · rwa [Int64.toInt_minValue]
    · rw [Int64.toInt_maxValue]
      omega
  · rintro ⟨i, rfl⟩
    exact inRange_toInt i

theorem isSome_integer?_iff {n : Int} : (integer? n).isSome ↔ InRange n := by
  simp only [Option.isSome_iff_exists, integer?_eq_some_iff, inRange_iff_exists]

end Number

/-! ## One operation -/

namespace Arithmetic

/-- Does the operation divide its first operand by the second. -/
def divides : Arithmetic → Bool
  | div | mod => true
  | _ => false

/-- The result on integers of any size.  Division goes toward zero, and a remainder is what it
leaves. -/
def exactResult (a : Arithmetic) (x y : Int) : Int :=
  match a with
  | add => x + y
  | sub => x - y
  | mul => x * y
  | div => x.tdiv y
  | mod => x - y * x.tdiv y

/-- The operation has a result of 64 bits.  For a remainder the quotient must have 64 bits, too. -/
structure Succeeds (a : Arithmetic) (x y : Int) : Prop where
  divisor_ne_zero : a.divides = true → y ≠ 0
  quotient_inRange : a = mod → Number.InRange (x.tdiv y)
  result_inRange : Number.InRange (a.exactResult x y)

end Arithmetic

namespace Value

open Number Arithmetic

/-- **An operation gives the exact result or none.** -/
theorem integerResult?_eq_some_iff {a : Arithmetic} {x y : Int} {i : Int64} :
    (integerResult? a x y).bind integer? = some i
      ↔ a.Succeeds x y ∧ i.toInt = a.exactResult x y := by
  have hrange : i.toInt = a.exactResult x y → InRange (a.exactResult x y) := fun h =>
    inRange_iff_exists.2 ⟨i, h⟩
  constructor
  · intro h
    obtain ⟨n, hn, hi⟩ := Option.bind_eq_some_iff.1 h
    rw [integer?_eq_some_iff] at hi
    cases a with
    | add | sub | mul =>
      cases hn
      exact ⟨⟨nofun, nofun, hrange hi⟩, hi⟩
    | div =>
      obtain ⟨hy, rfl⟩ : y ≠ 0 ∧ x.tdiv y = n := by simpa [integerResult?] using hn
      exact ⟨⟨fun _ => hy, nofun, hrange hi⟩, hi⟩
    | mod =>
      obtain ⟨⟨hy, hquotient⟩, rfl⟩ : (y ≠ 0 ∧ integer? (x.tdiv y) ≠ none) ∧ x.tmod y = n := by
        simpa [integerResult?] using hn
      rw [Int.tmod_def] at hi
      exact ⟨⟨fun _ => hy, fun _ => isSome_integer?_iff.1 (Option.isSome_iff_ne_none.2 hquotient),
        hrange hi⟩, hi⟩
  · rintro ⟨⟨hdivisor, hquotient, -⟩, hi⟩
    have hresult : integerResult? a x y = some (a.exactResult x y) := by
      cases a with
      | add | sub | mul => rfl
      | div => simp [integerResult?, exactResult, hdivisor rfl]
      | mod =>
        have hsome := isSome_integer?_iff.2 (hquotient rfl)
        simp [integerResult?, exactResult, hdivisor rfl, Int.tmod_def, Option.isNone_iff_eq_none,
          Option.isSome_iff_ne_none.1 hsome]
    rw [hresult, Option.bind_some, integer?_eq_some_iff, hi]

/-- The arithmetic of two integers is an integer or unknown. -/
theorem arithmetic_int (a : Arithmetic) (x y : Int64) :
    (∃ i : Int64, a.Succeeds x.toInt y.toInt ∧ i.toInt = a.exactResult x.toInt y.toInt
        ∧ arithmetic a (int x) (int y) = int i)
      ∨ ¬ a.Succeeds x.toInt y.toInt ∧ arithmetic a (int x) (int y) = null := by
  rw [arithmetic]
  cases h : (integerResult? a x.toInt y.toInt).bind integer? with
  | some i =>
    obtain ⟨hsucceeds, hi⟩ := integerResult?_eq_some_iff.1 h
    exact .inl ⟨i, hsucceeds, hi, rfl⟩
  | none =>
    refine .inr ⟨fun hsucceeds => ?_, rfl⟩
    obtain ⟨i, hi⟩ := inRange_iff_exists.1 hsucceeds.result_inRange
    rw [integerResult?_eq_some_iff.2 ⟨hsucceeds, hi⟩] at h
    cases h

/-- The integer that a value is; in place of other values there is zero. -/
def integer : Value → Int
  | int i => i.toInt
  | _ => 0

end Value

/-! ## Trees of operations -/

namespace Expression

open Number

/-- The value of an expression on integers of any size, for the given values of its properties. -/
def exactValue (read : String → Value) : Expression → Int
  | literal value => value.integer
  | property name => (read name).integer
  | binary left (.arithmetic a) right =>
    a.exactResult (left.exactValue read) (right.exactValue read)
  | _ => 0

/-- Nothing on the way to the value is absent, is divided by zero or leaves the range. -/
structure IsExact (read : String → Value) (e : Expression) : Prop where
  property_ne_null : ∀ name, property name ∈ e.parts → read name ≠ .null
  divisor_ne_zero : ∀ left a right, binary left (.arithmetic a) right ∈ e.parts →
    a.divides = true → right.exactValue read ≠ 0
  part_inRange : ∀ part ∈ e.parts, InRange (part.exactValue read)
  quotient_inRange : ∀ left right, binary left (.arithmetic .mod) right ∈ e.parts →
    InRange ((left.exactValue read).tdiv (right.exactValue read))

variable {read : String → Value}

theorem isExact_int (i : Int64) : (literal (.int i)).IsExact read where
  property_ne_null name hname := by simp [parts] at hname
  divisor_ne_zero left a right hpart := by simp [parts] at hpart
  part_inRange part hpart := by
    obtain rfl : part = literal (.int i) := by simpa [parts] using hpart
    exact inRange_toInt i
  quotient_inRange left right hpart := by simp [parts] at hpart

/-- A property that holds an integer or nothing is exact if it holds one. -/
theorem isExact_property_iff {name : String}
    (hread : read name = .null ∨ ∃ i, read name = .int i) :
    (property name).IsExact read ↔ read name ≠ .null := by
  refine ⟨fun h => h.property_ne_null name (self_mem_parts _), fun hname => ?_⟩
  obtain ⟨i, hi⟩ := hread.resolve_left hname
  exact {
    property_ne_null := fun other hother => by
      obtain rfl : other = name := by simpa [parts] using hother
      exact hname
    divisor_ne_zero := fun left a right hpart => by simp [parts] at hpart
    part_inRange := fun part hpart => by
      obtain rfl : part = property name := by simpa [parts] using hpart
      rw [exactValue, hi]
      exact inRange_toInt i
    quotient_inRange := fun left right hpart => by simp [parts] at hpart }

theorem IsExact.of_subset {e part : Expression} (h : e.IsExact read) (hpart : part.parts ⊆ e.parts) :
    part.IsExact read where
  property_ne_null name hname := h.property_ne_null name (hpart hname)
  divisor_ne_zero left a right hmem := h.divisor_ne_zero left a right (hpart hmem)
  part_inRange inner hinner := h.part_inRange inner (hpart hinner)
  quotient_inRange left right hmem := h.quotient_inRange left right (hpart hmem)

/-- **An operation is exact if its operands are and it succeeds on their values.** -/
theorem isExact_arithmetic_iff {left right : Expression} {a : Arithmetic} :
    (binary left (.arithmetic a) right).IsExact read
      ↔ left.IsExact read ∧ right.IsExact read
        ∧ a.Succeeds (left.exactValue read) (right.exactValue read) := by
  constructor
  · intro h
    refine ⟨h.of_subset (left_parts_subset _ _ _), h.of_subset (right_parts_subset _ _ _), ?_⟩
    exact {
      divisor_ne_zero := h.divisor_ne_zero left a right (self_mem_parts _)
      quotient_inRange := by
        rintro rfl
        exact h.quotient_inRange left right (self_mem_parts _)
      result_inRange := h.part_inRange _ (self_mem_parts _) }
  · rintro ⟨hleft, hright, hsucceeds⟩
    exact {
      property_ne_null := fun name hname => by
        rcases mem_parts_binary.1 hname with h | h | h
        · cases h
        · exact hleft.property_ne_null name h
        · exact hright.property_ne_null name h
      divisor_ne_zero := fun left' a' right' hmem => by
        rcases mem_parts_binary.1 hmem with h | h | h
        · cases h
          exact hsucceeds.divisor_ne_zero
        · exact hleft.divisor_ne_zero left' a' right' h
        · exact hright.divisor_ne_zero left' a' right' h
      part_inRange := fun part hmem => by
        rcases mem_parts_binary.1 hmem with h | h | h
        · rw [h]
          exact hsucceeds.result_inRange
        · exact hleft.part_inRange part h
        · exact hright.part_inRange part h
      quotient_inRange := fun left' right' hmem => by
        rcases mem_parts_binary.1 hmem with h | h | h
        · cases h
          exact hsucceeds.quotient_inRange rfl
        · exact hleft.quotient_inRange left' right' h
        · exact hright.quotient_inRange left' right' h }

/-- Integers, properties that hold an integer or nothing on a record, and arithmetic on these. -/
inductive IsIntegerArithmetic {ρ : Type} (binding : Binding ρ) (record : ρ) : Expression → Prop
  | int (i : Int64) : IsIntegerArithmetic binding record (literal (.int i))
  | property {name : String} (hbound : (binding.reader? name).isSome)
      (hread : binding.read name record = .null ∨ ∃ i, binding.read name record = .int i) :
      IsIntegerArithmetic binding record (property name)
  | arithmetic {left right : Expression} (a : Arithmetic)
      (hleft : IsIntegerArithmetic binding record left)
      (hright : IsIntegerArithmetic binding record right) :
      IsIntegerArithmetic binding record (binary left (.arithmetic a) right)

end Expression

namespace Node

open Expression

variable {ρ : Type} {binding : Binding ρ} {record : ρ} {e : Expression}

theorem exists_resolve_of_isIntegerArithmetic (h : e.IsIntegerArithmetic binding record) :
    ∃ node, resolve binding e = .ok node := by
  induction h with
  | int i => exact ⟨.literal (.int i), resolve_literal_eq_ok.2 rfl⟩
  | property hbound _ =>
    obtain ⟨read, hread⟩ := Binding.exists_reader_of_isSome hbound
    exact ⟨_, resolve_property_eq_ok.2 ⟨read, hread, rfl⟩⟩
  | arithmetic a _ _ ihleft ihright =>
    obtain ⟨leftNode, hleft⟩ := ihleft
    obtain ⟨rightNode, hright⟩ := ihright
    exact ⟨_, resolve_arithmetic_eq_ok.2 ⟨leftNode, rightNode, hleft, hright, rfl⟩⟩

/-- The value of a tree of operations is the exact one, or it is unknown because the tree is not
exact. -/
theorem evaluate_of_isIntegerArithmetic (h : e.IsIntegerArithmetic binding record) {node : Node ρ}
    (hnode : resolve binding e = .ok node) :
    (∃ i : Int64, e.IsExact (binding.read · record) ∧ i.toInt = e.exactValue (binding.read · record)
        ∧ node.evaluate record = .int i)
      ∨ ¬ e.IsExact (binding.read · record) ∧ node.evaluate record = .null := by
  induction h generalizing node with
  | int i =>
    obtain rfl := resolve_literal_eq_ok.1 hnode
    rw [evaluate_literal]
    exact .inl ⟨i, isExact_int i, rfl, rfl⟩
  | @property name _ hread =>
    obtain ⟨read, hreader, rfl⟩ := resolve_property_eq_ok.1 hnode
    rw [@isExact_property_iff (binding.read · record) name hread, evaluate_property,
      ← Binding.read_of_reader hreader, exactValue]
    rcases hread with hnull | ⟨i, hi⟩
    · exact .inr ⟨fun h => h hnull, hnull⟩
    · exact .inl ⟨i, by simp [hi], by rw [hi]; rfl, hi⟩
  | @arithmetic left right a _ _ ihleft ihright =>
    obtain ⟨leftNode, rightNode, hleftNode, hrightNode, rfl⟩ :=
      resolve_arithmetic_eq_ok.1 hnode
    rw [isExact_arithmetic_iff, exactValue, evaluate_arithmetic]
    -- an operand that is unknown makes the operation unknown, and not exact either
    rcases ihleft hleftNode with ⟨x, hleft, hx, hleftValue⟩ | ⟨hleft, hleftValue⟩
    · rcases ihright hrightNode with ⟨y, hright, hy, hrightValue⟩ | ⟨hright, hrightValue⟩
      · rw [hleftValue, hrightValue, ← hx, ← hy]
        rcases Value.arithmetic_int a x y with ⟨i, hsucceeds, hi, hvalue⟩ | ⟨hfails, hvalue⟩
        · exact .inl ⟨i, ⟨hleft, hright, hsucceeds⟩, hi, hvalue⟩
        · exact .inr ⟨fun h => hfails h.2.2, hvalue⟩
      · rw [hrightValue, Value.arithmetic_null_right]
        exact .inr ⟨fun h => hright h.2.1, rfl⟩
    · rw [hleftValue, Value.arithmetic_null_left]
      exact .inr ⟨fun h => hleft h.1, rfl⟩

/-- **Integer arithmetic is exact or unknown.**  Let an expression be made of integers, of properties
that hold an integer or nothing, and of arithmetic.  Its value on a record is the integer `i` exactly
if no property in it is absent, no divisor is zero, every part and the quotient of every remainder
has 64 bits, and `i` is the value that the expression has on integers of any size.  Otherwise it is
null. -/
theorem evaluate_integerArithmetic (binding : Binding ρ) (record : ρ) {e : Expression}
    (he : e.IsIntegerArithmetic binding record) :
    ∃ node, resolve binding e = .ok node
      ∧ (∀ i : Int64, node.evaluate record = .int i
        ↔ e.IsExact (binding.read · record) ∧ i.toInt = e.exactValue (binding.read · record))
      ∧ (¬ e.IsExact (binding.read · record) → node.evaluate record = .null) := by
  obtain ⟨node, hnode⟩ := exists_resolve_of_isIntegerArithmetic he
  refine ⟨node, hnode, ?_⟩
  rcases evaluate_of_isIntegerArithmetic he hnode with ⟨i, hexact, hi, hvalue⟩ | ⟨hexact, hvalue⟩
  · refine ⟨fun j => ?_, fun h => absurd hexact h⟩
    rw [hvalue, Value.int.injEq, ← hi, Int64.toInt_inj]
    exact ⟨fun h => ⟨hexact, h.symm⟩, fun h => h.2.symm⟩
  · refine ⟨fun j => ?_, fun _ => hvalue⟩
    rw [hvalue]
    exact ⟨nofun, fun h => absurd h.1 hexact⟩

/-- The rule for a remainder by -1, which is zero for every number: it is unknown for the smallest
one, whose quotient is too large. -/
theorem evaluate_integerArithmetic_of_remainder :
    let binding : Binding Int64 :=
      ⟨"Row", .ofList [("Number", ⟨{ type := .integer }, fun number => .int number⟩)]⟩
    let e : Expression :=
      .binary (.property "Number") (.arithmetic .mod) (.literal (.int (-1)))
    (∃ node, resolve binding e = .ok node
        ∧ node.evaluate Int64.minValue = .null)
      ∧ ∃ node, resolve binding e = .ok node ∧ node.evaluate 7 = .int 0 := by
  intro binding e
  have he (number : Int64) : e.IsIntegerArithmetic binding number :=
    .arithmetic .mod (.property rfl (.inr ⟨number, rfl⟩)) (.int (-1))
  constructor
  · obtain ⟨node, hnode, -, hnull⟩ := evaluate_integerArithmetic binding Int64.minValue (he _)
    refine ⟨node, hnode, hnull fun hexact => ?_⟩
    have hquotient := hexact.quotient_inRange _ _ (self_mem_parts _)
    revert hquotient
    decide
  · obtain ⟨node, hnode, hvalue, -⟩ := evaluate_integerArithmetic binding 7 (he _)
    refine ⟨node, hnode, (hvalue 0).2 ⟨?_, by decide⟩⟩
    rw [isExact_arithmetic_iff]
    refine ⟨(isExact_property_iff (.inr ⟨7, rfl⟩)).2 nofun, isExact_int _, ?_⟩
    exact ⟨by decide, by decide, by decide⟩

end Node

end ODataQuery
