/-!
# Stable sorting by insertion

Every element is put in front of those, from the back, that it is to precede.  So the result is
ordered if the comparison is an order, equal elements keep their places, and where the comparison is
none, an element moves until the first one that it does not precede.
-/

set_option autoImplicit false

namespace ODataQuery
namespace StableSort

variable {α : Type}

/-- Put an element in its place in a list that has the last element first. -/
def insert (precedes : α → α → Bool) (x : α) : List α → List α
  | [] => [x]
  | last :: rest =>
    if precedes x last then last :: insert precedes x rest else x :: last :: rest

/-- The elements in order. -/
def sort (precedes : α → α → Bool) (elements : List α) : List α :=
  (elements.foldl (fun sorted x => insert precedes x sorted) []).reverse

theorem insert_perm (precedes : α → α → Bool) (x : α) (sorted : List α) :
    (insert precedes x sorted).Perm (x :: sorted) := by
  induction sorted with
  | nil => exact .refl _
  | cons last rest ih =>
    rw [insert]
    split
    · exact (ih.cons last).trans (.swap x last rest)
    · exact .refl _

end StableSort
end ODataQuery
