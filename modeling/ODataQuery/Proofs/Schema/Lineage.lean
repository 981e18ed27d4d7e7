import ODataQuery.Proofs.Outcomes
import ODataQuery.Schema.Shape

/-!
# Chains of base links

Following base links from a shape gives a chain of names.  It ends at the first name that has no
link, or it never ends because it comes back to a name.

* `Shapes.ancestor?`, `Shapes.shapeAt?`: the name that a number of links lead to, and its shape.
* `Shapes.recurs_iff`: a chain comes back exactly if it gets to a shape that derives from itself.
* `Shapes.Ending`: the four ways in which a chain can go.  They exclude each other
  (`Shapes.Ending.unique`).
* `Shapes.Walked`: what the search for a lineage has done when it gets to a name.
* `Shapes.ending_lineage`: the search always ends, and its outcome says how the chain goes.
* `Shapes.getElem?_of_lineageFrom`: a lineage lists the shapes of the chain in order.
-/

set_option autoImplicit false

namespace ODataQuery
namespace Shapes

variable {shapes : Shapes} {start name other : String}

/-! ## Chains -/

/-- The name that a shape derives from, if it is the name of a shape that has a base. -/
def base? (shapes : Shapes) (name : String) : Option String :=
  (shapes.get? name).bind RecordShape.base

/-- The name that a number of base links lead to. -/
def ancestor? (shapes : Shapes) (name : String) : Nat → Option String
  | 0 => some name
  | steps + 1 => (shapes.ancestor? name steps).bind shapes.base?

/-- The shape that a number of base links lead to. -/
def shapeAt? (shapes : Shapes) (name : String) (steps : Nat) : Option RecordShape :=
  (shapes.ancestor? name steps).bind shapes.get?

/-- More links are followed from where the first ones have led. -/
theorem ancestor?_add (shapes : Shapes) (name : String) (first more : Nat) :
    shapes.ancestor? name (first + more)
      = (shapes.ancestor? name first).bind fun other => shapes.ancestor? other more := by
  induction more with
  | zero =>
    rw [Nat.add_zero]
    cases shapes.ancestor? name first <;> rfl
  | succ more ih =>
    rw [← Nat.add_assoc, ancestor?, ih, Option.bind_assoc]
    rfl

/-- The base has the rest of the chain. -/
theorem ancestor?_succ (shapes : Shapes) (name : String) (steps : Nat) :
    shapes.ancestor? name (steps + 1)
      = (shapes.base? name).bind fun base => shapes.ancestor? base steps := by
  rw [Nat.add_comm, ancestor?_add]
  rfl

theorem shapeAt?_succ (shapes : Shapes) (name : String) (steps : Nat) :
    shapes.shapeAt? name (steps + 1)
      = (shapes.base? name).bind fun base => shapes.shapeAt? base steps := by
  rw [shapeAt?, ancestor?_succ, Option.bind_assoc]
  rfl

/-- The chain of a name ends at a name that has no base. -/
def EndsAt (shapes : Shapes) (name : String) (steps : Nat) (last : String) : Prop :=
  shapes.ancestor? name steps = some last ∧ shapes.base? last = none

theorem EndsAt.ancestor?_eq_none {steps : Nat} {last : String} (h : shapes.EndsAt name steps last)
    {more : Nat} (hmore : steps < more) : shapes.ancestor? name more = none := by
  obtain ⟨beyond, rfl⟩ := Nat.exists_eq_add_of_lt hmore
  rw [Nat.add_assoc, ancestor?_add, h.1, Option.bind_some, ancestor?_succ, h.2, Option.bind_none]

/-- A chain has one end. -/
theorem EndsAt.unique {steps steps' : Nat} {last last' : String}
    (h : shapes.EndsAt name steps last) (h' : shapes.EndsAt name steps' last') :
    steps = steps' ∧ last = last' := by
  rcases Nat.lt_trichotomy steps steps' with hlt | rfl | hlt
  · rw [EndsAt, h.ancestor?_eq_none hlt] at h'
    cases h'.1
  · rw [EndsAt, h.1, Option.some_inj] at h'
    exact ⟨rfl, h'.1⟩
  · rw [EndsAt, h'.ancestor?_eq_none hlt] at h
    cases h.1

/-- The chain of a name comes back to a name that was on it. -/
def Recurs (shapes : Shapes) (name : String) : Prop :=
  ∃ first again other, first < again
    ∧ shapes.ancestor? name first = some other ∧ shapes.ancestor? name again = some other

/-- A chain that comes back has no end. -/
theorem Recurs.not_endsAt (h : shapes.Recurs name) (steps : Nat) (last : String) :
    ¬ shapes.EndsAt name steps last := by
  obtain ⟨first, again, other, hlt, hfirst, hagain⟩ := h
  intro hend
  -- the end is as far behind the second visit as behind the first, so it is there twice
  rcases Nat.lt_or_ge steps again with hbefore | hafter
  · rw [hend.ancestor?_eq_none hbefore] at hagain
    cases hagain
  · obtain ⟨rest, rfl⟩ := Nat.exists_eq_add_of_le hafter
    have hearlier : shapes.EndsAt name (first + rest) last := by
      refine ⟨?_, hend.2⟩
      have hlast := hend.1
      rw [ancestor?_add, hagain] at hlast
      rw [ancestor?_add, hfirst, hlast]
    have := (hearlier.unique hend).1
    omega

/-- Following one or more base links from a shape leads back to it. -/
def DerivesFromItself (shapes : Shapes) (name : String) : Prop :=
  ∃ steps, shapes.ancestor? name (steps + 1) = some name

/-- A chain comes back exactly if it gets to a shape that derives from itself. -/
theorem recurs_iff : shapes.Recurs name
    ↔ ∃ steps other, shapes.ancestor? name steps = some other ∧ shapes.DerivesFromItself other := by
  constructor
  · rintro ⟨first, again, other, hlt, hfirst, hagain⟩
    obtain ⟨steps, rfl⟩ := Nat.exists_eq_add_of_lt hlt
    rw [Nat.add_assoc, ancestor?_add, hfirst] at hagain
    exact ⟨first, other, hfirst, steps, hagain⟩
  · rintro ⟨first, other, hfirst, steps, hsteps⟩
    refine ⟨first, first + (steps + 1), other, by omega, hfirst, ?_⟩
    rw [ancestor?_add, hfirst]
    exact hsteps

/-- The chain of a name gets to a shape without a base. -/
def IsRooted (shapes : Shapes) (name : String) : Prop :=
  ∃ steps shape, shapes.shapeAt? name steps = some shape ∧ shape.base = none

/-- The chain of a name gets to a base that is no shape; the shape before it is the last one. -/
def LacksBase (shapes : Shapes) (name shape base : String) : Prop :=
  ∃ steps, shapes.ancestor? name steps = some shape ∧ shapes.base? shape = some base
    ∧ shapes.get? base = none

/-! ## The ways in which a chain can go -/

theorem base?_of_get? {shape : RecordShape} (h : shapes.get? name = some shape) :
    shapes.base? name = shape.base := by
  rw [base?, h, Option.bind_some]

/-- What is no shape has no base, so a chain ends there. -/
theorem base?_of_absent (h : shapes.get? name = none) : shapes.base? name = none := by
  rw [base?, h, Option.bind_none]

theorem endsAt_of_absent (h : shapes.get? name = none) : shapes.EndsAt name 0 name :=
  ⟨rfl, base?_of_absent h⟩

theorem IsRooted.endsAt (h : shapes.IsRooted name) :
    ∃ steps root, shapes.EndsAt name steps root ∧ shapes.get? root ≠ none := by
  obtain ⟨steps, shape, hshape, hbase⟩ := h
  obtain ⟨root, hroot, hget⟩ := Option.bind_eq_some_iff.1 hshape
  exact ⟨steps, root, ⟨hroot, (base?_of_get? hget).trans hbase⟩, by rw [hget]; exact nofun⟩

theorem LacksBase.endsAt {shape base : String} (h : shapes.LacksBase name shape base) :
    ∃ steps, shapes.ancestor? name steps = some shape ∧ shapes.EndsAt name (steps + 1) base
      ∧ shapes.get? base = none := by
  obtain ⟨steps, hshape, hbase, habsent⟩ := h
  refine ⟨steps, hshape, ⟨?_, base?_of_absent habsent⟩, habsent⟩
  rw [ancestor?, hshape]
  exact hbase

theorem IsRooted.get?_ne_none (h : shapes.IsRooted name) : shapes.get? name ≠ none := by
  obtain ⟨steps, root, hend, hroot⟩ := h.endsAt
  intro habsent
  obtain ⟨-, rfl⟩ := hend.unique (endsAt_of_absent habsent)
  exact hroot habsent

theorem IsRooted.not_lacksBase (h : shapes.IsRooted name) (shape base : String) :
    ¬ shapes.LacksBase name shape base := by
  intro hlacks
  obtain ⟨steps, root, hend, hroot⟩ := h.endsAt
  obtain ⟨_, -, hend', habsent⟩ := hlacks.endsAt
  obtain ⟨-, rfl⟩ := hend.unique hend'
  exact hroot habsent

theorem LacksBase.get?_ne_none {shape base : String} (h : shapes.LacksBase name shape base) :
    shapes.get? name ≠ none := by
  obtain ⟨steps, -, hend, -⟩ := h.endsAt
  intro habsent
  have := (hend.unique (endsAt_of_absent habsent)).1
  omega

theorem LacksBase.unique {shape base shape' base' : String}
    (h : shapes.LacksBase name shape base) (h' : shapes.LacksBase name shape' base') :
    shape = shape' ∧ base = base' := by
  obtain ⟨steps, hshape, hend, -⟩ := h.endsAt
  obtain ⟨steps', hshape', hend', -⟩ := h'.endsAt
  obtain ⟨hsteps, hbase⟩ := hend.unique hend'
  obtain rfl : steps = steps' := by omega
  exact ⟨Option.some_inj.1 (hshape.symm.trans hshape'), hbase⟩

theorem Recurs.not_isRooted (h : shapes.Recurs name) : ¬ shapes.IsRooted name := by
  intro hrooted
  obtain ⟨steps, root, hend, -⟩ := hrooted.endsAt
  exact h.not_endsAt steps root hend

theorem Recurs.get?_ne_none (h : shapes.Recurs name) : shapes.get? name ≠ none :=
  fun habsent => h.not_endsAt 0 name (endsAt_of_absent habsent)

theorem Recurs.not_lacksBase (h : shapes.Recurs name) (shape base : String) :
    ¬ shapes.LacksBase name shape base := by
  intro hlacks
  obtain ⟨steps, -, hend, -⟩ := hlacks.endsAt
  exact h.not_endsAt (steps + 1) base hend

/-- How the chain of a name goes, with the error that tells: it gets to a shape without a base, the
name is that of no shape, a base is that of no shape, or the chain comes back. -/
inductive Ending (shapes : Shapes) (name : String) : Option SchemaError → Prop
  | root : shapes.IsRooted name → Ending shapes name none
  | absent : shapes.get? name = none → Ending shapes name (some (.shapeNotFound name))
  | absentBase {shape base : String} : shapes.LacksBase name shape base →
    Ending shapes name (some (.baseShapeNotFound shape base))
  | cycle : shapes.Recurs name → Ending shapes name (some (.inheritanceCycle name))

/-- A chain goes in one way only. -/
theorem Ending.unique {outcome outcome' : Option SchemaError} (h : shapes.Ending name outcome)
    (h' : shapes.Ending name outcome') : outcome = outcome' := by
  cases h with
  | root h =>
    cases h' with
    | root _ => rfl
    | absent h' => exact absurd h' h.get?_ne_none
    | absentBase h' => exact absurd h' (h.not_lacksBase _ _)
    | cycle h' => exact absurd h h'.not_isRooted
  | absent h =>
    cases h' with
    | root h' => exact absurd h h'.get?_ne_none
    | absent _ => rfl
    | absentBase h' => exact absurd h h'.get?_ne_none
    | cycle h' => exact absurd h h'.get?_ne_none
  | absentBase h =>
    cases h' with
    | root h' => exact absurd h (h'.not_lacksBase _ _)
    | absent h' => exact absurd h' h.get?_ne_none
    | absentBase h' =>
      obtain ⟨rfl, rfl⟩ := h.unique h'
      rfl
    | cycle h' => exact absurd h (h'.not_lacksBase _ _)
  | cycle h =>
    cases h' with
    | root h' => exact absurd h' h.not_isRooted
    | absent h' => exact absurd h' h.get?_ne_none
    | absentBase h' => exact absurd h' (h.not_lacksBase _ _)
    | cycle _ => rfl

/-! ## The search for a lineage -/

/-- The search that began at `start` has got to a name past the visited ones, the last of which
comes first. -/
inductive Walked (shapes : Shapes) (start : String) : List String → String → Prop
  | start : Walked shapes start [] start
  | step {visited : List String} {name base : String} : Walked shapes start visited name →
    shapes.base? name = some base → Walked shapes start (name :: visited) base

variable {visited : List String}

/-- As many links have been followed as names have been visited. -/
theorem Walked.ancestor? (h : shapes.Walked start visited name) :
    shapes.ancestor? start visited.length = some name := by
  induction h with
  | start => rfl
  | step _ hbase ih => rw [List.length_cons, Shapes.ancestor?, ih, Option.bind_some, hbase]

/-- What has been visited is on the chain. -/
theorem Walked.exists_of_mem (h : shapes.Walked start visited name) (hother : other ∈ visited) :
    ∃ first < visited.length, shapes.ancestor? start first = some other := by
  induction h with
  | start => cases hother
  | @step visited name base hwalked hbase ih =>
    rw [List.length_cons]
    rcases List.mem_cons.1 hother with rfl | hother
    · exact ⟨visited.length, Nat.lt_succ_self _, hwalked.ancestor?⟩
    · obtain ⟨first, hlt, hfirst⟩ := ih hother
      exact ⟨first, Nat.lt_succ_of_lt hlt, hfirst⟩

/-- Wherever the search is, it tells how the chain that it began with goes. -/
theorem Walked.ending_lineageFrom (h : shapes.Walked start visited name) :
    shapes.Ending start (failure? (shapes.lineageFrom start visited name)) := by
  fun_induction lineageFrom shapes start visited name with
  | case1 visited name hvisited =>
    obtain ⟨first, hlt, hfirst⟩ := h.exists_of_mem hvisited
    exact .cycle ⟨first, visited.length, name, hlt, hfirst, h.ancestor?⟩
  | case2 visited name hnew hget =>
    cases h with
    | start => exact .absent hget
    | step hwalked hbase => exact .absentBase ⟨_, hwalked.ancestor?, hbase, hget⟩
  | case3 visited name hnew shape hget hbase =>
    refine .root ⟨visited.length, shape, ?_, hbase⟩
    rw [shapeAt?, h.ancestor?, Option.bind_some, hget]
  | case4 visited name hnew shape hget base hbase ih =>
    rw [failure?_map]
    exact ih (.step h ((base?_of_get? hget).trans hbase))

/-- **The search for a lineage ends, and tells how the chain goes.** -/
theorem ending_lineage (shapes : Shapes) (name : String) :
    shapes.Ending name (failure? (shapes.lineage name)) :=
  Walked.start.ending_lineageFrom

/-- **A lineage lists the shapes of the chain in order.** -/
theorem getElem?_of_lineageFrom {lineage : List RecordShape}
    (h : shapes.lineageFrom start visited name = .ok lineage) (steps : Nat) :
    lineage[steps]? = shapes.shapeAt? name steps := by
  fun_induction lineageFrom shapes start visited name generalizing lineage steps with
  | case1 visited name hvisited => cases h
  | case2 visited name hnew hget => cases h
  | case3 visited name hnew shape hget hbase =>
    cases h
    cases steps with
    | zero => exact hget.symm
    | succ steps => rw [shapeAt?_succ, base?_of_get? hget, hbase]; rfl
  | case4 visited name hnew shape hget base hbase ih =>
    obtain ⟨rest, hrest, rfl⟩ := map_eq_ok.1 h
    cases steps with
    | zero => exact hget.symm
    | succ steps =>
      rw [shapeAt?_succ, base?_of_get? hget, hbase, List.getElem?_cons_succ, ih hrest]
      rfl

end Shapes
end ODataQuery
