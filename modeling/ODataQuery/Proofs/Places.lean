import Mathlib.Data.List.Nodup
import ODataQuery.Proofs.StableSort

/-!
# Elements by their places in an order

Instead of sorting a list and taking a part of it, one can give each element the place that it has
in the sorted list, keep those whose places are in the part, and sort these by their places.

* `placeOf`: the place that an element has in the sorted list, by its index in the unsorted one.
* `arrange_by_place`: elements sorted by their places are the sorted list.
* `page_by_place`: those among them that have places in a range are that part of the sorted list.
-/

set_option autoImplicit false

namespace ODataQuery

variable {α : Type}

/-! ## Ranges of places -/

/-- Leaving out the elements below a place drops as many as there are. -/
theorem filter_le_place {place : α → Nat} (lo : Nat) {elements : List α} {first : Nat}
    (h : elements.map place = List.range' first elements.length) :
    elements.filter (fun a => decide (lo ≤ place a)) = elements.drop (lo - first) := by
  induction elements generalizing first with
  | nil => simp
  | cons a rest ih =>
    rw [List.map_cons, List.length_cons, List.range'_succ, List.cons.injEq] at h
    obtain ⟨hfirst, hrest⟩ := h
    have ih := ih hrest
    by_cases hlo : lo ≤ first
    · have hzero : lo - (first + 1) = 0 := by omega
      rw [List.filter_cons_of_pos (by simpa [hfirst] using hlo), ih, hzero,
        Nat.sub_eq_zero_of_le hlo, List.drop_zero, List.drop_zero]
    · have hsucc : lo - first = (lo - (first + 1)) + 1 := by omega
      rw [List.filter_cons_of_neg (by simpa [hfirst] using hlo), ih, hsucc, List.drop_succ_cons]

/-- Leaving out the elements from a place on takes as many as there are below it. -/
theorem filter_place_lt {place : α → Nat} (hi : Nat) {elements : List α} {first : Nat}
    (h : elements.map place = List.range' first elements.length) :
    elements.filter (fun a => decide (place a < hi)) = elements.take (hi - first) := by
  induction elements generalizing first with
  | nil => simp
  | cons a rest ih =>
    rw [List.map_cons, List.length_cons, List.range'_succ, List.cons.injEq] at h
    obtain ⟨hfirst, hrest⟩ := h
    have ih := ih hrest
    by_cases hhi : first < hi
    · have hsucc : hi - first = (hi - (first + 1)) + 1 := by omega
      rw [List.filter_cons_of_pos (by simpa [hfirst] using hhi), ih, hsucc, List.take_succ_cons]
    · have hzero : hi - (first + 1) = 0 := by omega
      rw [List.filter_cons_of_neg (by simpa [hfirst] using hhi), ih, hzero,
        Nat.sub_eq_zero_of_le (Nat.le_of_not_lt hhi), List.take_zero, List.take_zero]

/-! ## Places in an order -/

variable (cmp : α → α → Ordering) (elements : List α)

/-- The elements with their indices, in order. -/
def arrangeIndexed : List (α × Nat) :=
  arrange (fun a b => cmp a.1 b.1) elements.zipIdx

/-- The place in the sorted list of the element with an index in the list. -/
def placeOf (index : Nat) : Nat :=
  ((arrangeIndexed cmp elements).map Prod.snd).idxOf index

theorem map_fst_arrangeIndexed :
    (arrangeIndexed cmp elements).map Prod.fst = arrange cmp elements := by
  have harrange : (arrangeIndexed cmp elements).map Prod.fst
      = arrange cmp (elements.zipIdx.map Prod.fst) :=
    map_arrange fun _ _ _ _ => rfl
  rw [harrange, List.zipIdx_map_fst]

theorem arrangeIndexed_perm : (arrangeIndexed cmp elements).Perm elements.zipIdx :=
  arrange_perm _ _

theorem nodup_map_snd_arrangeIndexed : ((arrangeIndexed cmp elements).map Prod.snd).Nodup := by
  refine ((arrangeIndexed_perm cmp elements).map Prod.snd).nodup_iff.2 ?_
  rw [List.zipIdx_map_snd]
  exact List.nodup_range'

/-- The places of the sorted elements are the first ones in order. -/
theorem map_placeOf_arrangeIndexed :
    (arrangeIndexed cmp elements).map (fun a => placeOf cmp elements a.2)
      = List.range' 0 (arrangeIndexed cmp elements).length := by
  refine List.ext_getElem (by simp) fun place h _ => ?_
  have hplace : place < ((arrangeIndexed cmp elements).map Prod.snd).length := by simpa using h
  have hself := (nodup_map_snd_arrangeIndexed cmp elements).idxOf_getElem place hplace
  rw [List.getElem_map] at hself ⊢
  rw [placeOf, hself, List.getElem_range', Nat.zero_add, Nat.one_mul]

theorem placeOf_lt {a : α × Nat} (ha : a ∈ elements.zipIdx) :
    placeOf cmp elements a.2 < elements.length := by
  have hmem : a.2 ∈ (arrangeIndexed cmp elements).map Prod.snd :=
    List.mem_map_of_mem ((arrangeIndexed_perm cmp elements).mem_iff.2 ha)
  have hlt := List.idxOf_lt_length_of_mem hmem
  rwa [List.length_map, (arrangeIndexed_perm cmp elements).length_eq, List.length_zipIdx] at hlt

/-- No two elements have one place. -/
theorem eq_of_placeOf_eq {a b : α × Nat} (ha : a ∈ elements.zipIdx) (hb : b ∈ elements.zipIdx)
    (h : placeOf cmp elements a.2 = placeOf cmp elements b.2) : a = b := by
  have hmem : a.2 ∈ (arrangeIndexed cmp elements).map Prod.snd :=
    List.mem_map_of_mem ((arrangeIndexed_perm cmp elements).mem_iff.2 ha)
  have hindex : a.2 = b.2 := (List.idxOf_inj hmem).1 h
  have hfst := (List.mem_zipIdx' ha).2
  simp only [hindex] at hfst
  exact Prod.ext (hfst.trans (List.mem_zipIdx' hb).2.symm) hindex

section ByPlace

variable {byPlace : α × Nat → α × Nat → Ordering}
  (hplace : ∀ a ∈ elements.zipIdx, ∀ b ∈ elements.zipIdx,
    byPlace a b = compare (placeOf cmp elements a.2) (placeOf cmp elements b.2))
include hplace

theorem ranks_byPlace : Ranks byPlace elements.zipIdx := by
  have hnumbers : Ranks compare (elements.zipIdx.map fun a => placeOf cmp elements a.2) :=
    Ranks.of_transCmp _
  exact (Ranks.map_iff.1 hnumbers).congr fun a ha b hb => (hplace a ha b hb).symm

/-- **Elements sorted by their places are the sorted list.** -/
theorem arrange_by_place : arrange byPlace elements.zipIdx = arrangeIndexed cmp elements := by
  have hperm := arrange_perm byPlace elements.zipIdx
  have hordered : (arrange byPlace elements.zipIdx).Pairwise fun a b =>
      placeOf cmp elements a.2 ≤ placeOf cmp elements b.2 := by
    refine (isStableSort_arrange (ranks_byPlace cmp elements hplace)).ordered.imp_of_mem
      fun {a b} ha hb hle => ?_
    rw [hplace a (hperm.mem_iff.1 ha) b (hperm.mem_iff.1 hb)] at hle
    exact Nat.isLE_compare.1 hle
  have hordered' : (arrangeIndexed cmp elements).Pairwise fun a b =>
      placeOf cmp elements a.2 ≤ placeOf cmp elements b.2 := by
    have hrange : ((arrangeIndexed cmp elements).map fun a => placeOf cmp elements a.2).Pairwise
        (· ≤ ·) := by
      rw [map_placeOf_arrangeIndexed]
      exact List.pairwise_le_range'
    exact List.pairwise_map.1 hrange
  have hperm' := arrangeIndexed_perm cmp elements
  refine List.Perm.eq_of_pairwise (fun a b ha hb hab hba => ?_) hordered hordered'
    (hperm.trans hperm'.symm)
  exact eq_of_placeOf_eq cmp elements (hperm.mem_iff.1 ha) (hperm'.mem_iff.1 hb)
    (Nat.le_antisymm hab hba)

/-- **The elements with places in a range**, sorted by their places, are that part of the sorted
list. -/
theorem page_by_place (lo : Nat) (hi : Option Nat) :
    (arrange byPlace (elements.zipIdx.filter fun a =>
        decide (lo ≤ placeOf cmp elements a.2)
          && hi.all fun hi => decide (placeOf cmp elements a.2 < hi))).map Prod.fst
      = match hi with
        | none => (arrange cmp elements).drop lo
        | some hi => ((arrange cmp elements).take hi).drop lo := by
  have hplaces := map_placeOf_arrangeIndexed cmp elements
  rw [arrange_filter (ranks_byPlace cmp elements hplace), arrange_by_place cmp elements hplace,
    ← List.filter_filter]
  cases hi with
  | none =>
    have hall : ((arrangeIndexed cmp elements).filter fun a =>
        (none : Option Nat).all fun hi => decide (placeOf cmp elements a.2 < hi))
          = arrangeIndexed cmp elements :=
      List.filter_eq_self.2 fun _ _ => rfl
    rw [hall, filter_le_place lo hplaces, List.map_drop, map_fst_arrangeIndexed]
    rfl
  | some hi =>
    have htake := filter_place_lt hi hplaces
    have hplaces' : ((arrangeIndexed cmp elements).take hi).map (fun a => placeOf cmp elements a.2)
        = List.range' 0 ((arrangeIndexed cmp elements).take hi).length := by
      rw [List.map_take, hplaces, List.length_take]
      exact List.ext_getElem (by simp) fun _ _ _ => by simp
    rw [Nat.sub_zero] at htake
    simp only [Option.all_some]
    rw [htake, filter_le_place lo hplaces', List.map_drop, List.map_take, map_fst_arrangeIndexed]
    rfl

end ByPlace

end ODataQuery
