import Mathlib.Data.List.Basic
import Mathlib.Data.List.TakeWhile
import ODataQuery.Records.Sort

/-!
# Stable sorting

A stable sort of a list has the elements in order, and those that are equal in the order of the
list.  As long as the comparison is an order of the elements there is only one such list, so
everything about sorting is proved by showing that some list is a stable sort.

* `Ranks`: among the elements of a list, a comparison is an order.
* `IsStableSort`: a list is a stable sort of another; `IsStableSort.unique` says that there is one.
* `StableSort.isStableSort_sort`, `isStableSort_arrange`: sorting by insertion and by merging are
  both stable sorts, so they are the same (`StableSort.sort_eq_arrange`).
* `StableSort.sort_map`: elements are sorted by comparing what they are mapped to, also where the
  comparison is no order.
* `arrange_filter`: sorting commutes with leaving elements out.
* `arrange_arrange`: to sort by one comparison and then by another is to sort by the second with the
  first breaking its ties.
-/

set_option autoImplicit false

namespace ODataQuery

variable {α β : Type}

/-! ## Orders of the elements of a list -/

/-- Among the elements of a list, a comparison is an order: it is reversed when its sides are, and
"not greater" is transitive.  Elements may be equal without being the same. -/
structure Ranks (cmp : α → α → Ordering) (elements : List α) : Prop where
  swap : ∀ a ∈ elements, ∀ b ∈ elements, cmp b a = (cmp a b).swap
  trans : ∀ a ∈ elements, ∀ b ∈ elements, ∀ c ∈ elements,
    (cmp a b).isLE → (cmp b c).isLE → (cmp a c).isLE

namespace Ranks

variable {cmp : α → α → Ordering} {elements : List α}

/-- What ranks elements ranks some of them. -/
theorem subset (h : Ranks cmp elements) {some : List α} (hsubset : some ⊆ elements) :
    Ranks cmp some where
  swap a ha b hb := h.swap a (hsubset ha) b (hsubset hb)
  trans a ha b hb c hc := h.trans a (hsubset ha) b (hsubset hb) c (hsubset hc)

theorem of_transCmp [Std.TransCmp cmp] (elements : List α) : Ranks cmp elements where
  swap _ _ _ _ := Std.OrientedCmp.eq_swap
  trans _ _ _ _ _ _ := Std.TransCmp.isLE_trans

theorem map_iff {cmp : β → β → Ordering} {f : α → β} :
    Ranks cmp (elements.map f) ↔ Ranks (fun a b => cmp (f a) (f b)) elements := by
  constructor
  · exact fun h => ⟨fun a ha b hb => h.swap _ (List.mem_map_of_mem ha) _ (List.mem_map_of_mem hb),
      fun a ha b hb c hc => h.trans _ (List.mem_map_of_mem ha) _ (List.mem_map_of_mem hb) _
        (List.mem_map_of_mem hc)⟩
  · intro h
    constructor
    · intro x hx y hy
      obtain ⟨a, ha, rfl⟩ := List.mem_map.1 hx
      obtain ⟨b, hb, rfl⟩ := List.mem_map.1 hy
      exact h.swap a ha b hb
    · intro x hx y hy z hz
      obtain ⟨a, ha, rfl⟩ := List.mem_map.1 hx
      obtain ⟨b, hb, rfl⟩ := List.mem_map.1 hy
      obtain ⟨c, hc, rfl⟩ := List.mem_map.1 hz
      exact h.trans a ha b hb c hc

/-- Only the comparisons among the elements matter. -/
theorem congr (h : Ranks cmp elements) {cmp' : α → α → Ordering}
    (heq : ∀ a ∈ elements, ∀ b ∈ elements, cmp a b = cmp' a b) : Ranks cmp' elements where
  swap a ha b hb := by
    rw [← heq a ha b hb, ← heq b hb a ha]
    exact h.swap a ha b hb
  trans a ha b hb c hc := by
    rw [← heq a ha b hb, ← heq b hb c hc, ← heq a ha c hc]
    exact h.trans a ha b hb c hc

/-- The reversed comparison ranks the same elements. -/
theorem reverse (h : Ranks cmp elements) : Ranks (fun a b => (cmp a b).swap) elements where
  swap a ha b hb := by rw [h.swap a ha b hb]
  trans a ha b hb c hc hab hbc := by
    rw [← h.swap a ha b hb] at hab
    rw [← h.swap b hb c hc] at hbc
    rw [← h.swap a ha c hc]
    exact h.trans c hc b hb a ha hbc hab

variable {a b c : α}

theorem self (h : Ranks cmp elements) (ha : a ∈ elements) : cmp a a = .eq := by
  have hswap := h.swap a ha a ha
  cases hcmp : cmp a a <;> rw [hcmp] at hswap <;> simp_all

theorem total (h : Ranks cmp elements) (ha : a ∈ elements) (hb : b ∈ elements) :
    (cmp a b).isLE ∨ (cmp b a).isLE := by
  rw [h.swap a ha b hb]
  cases cmp a b <;> simp

theorem eq_of_isLE_of_isLE (h : Ranks cmp elements) (ha : a ∈ elements) (hb : b ∈ elements)
    (hab : (cmp a b).isLE) (hba : (cmp b a).isLE) : cmp a b = .eq := by
  rw [h.swap a ha b hb] at hba
  cases hcmp : cmp a b <;> simp_all

theorem eq_symm (h : Ranks cmp elements) (ha : a ∈ elements) (hb : b ∈ elements)
    (hab : cmp a b = .eq) : cmp b a = .eq := by
  rw [h.swap a ha b hb, hab]
  rfl

/-- Equal elements compare alike with every element. -/
theorem congr_left (h : Ranks cmp elements) (ha : a ∈ elements) (hb : b ∈ elements)
    (hc : c ∈ elements) (hab : cmp a b = .eq) : cmp a c = cmp b c := by
  have hba := h.eq_symm ha hb hab
  have hle : (cmp a c).isLE ↔ (cmp b c).isLE :=
    ⟨h.trans b hb a ha c hc (by simp [hba]), h.trans a ha b hb c hc (by simp [hab])⟩
  have hge : (cmp c a).isLE ↔ (cmp c b).isLE :=
    ⟨fun hca => h.trans c hc a ha b hb hca (by simp [hab]),
     fun hcb => h.trans c hc b hb a ha hcb (by simp [hba])⟩
  rw [h.swap a ha c hc, h.swap b hb c hc] at hge
  cases hac : cmp a c <;> cases hbc : cmp b c <;> simp_all

/-- An order whose ties another one breaks is an order. -/
theorem lex {second : α → α → Ordering} (h : Ranks cmp elements)
    (hsecond : Ranks second elements) : Ranks (compareLex cmp second) elements where
  swap a ha b hb := by
    rw [compareLex, compareLex, Ordering.swap_then, h.swap a ha b hb, hsecond.swap a ha b hb]
  trans a ha b hb c hc hab hbc := by
    rw [compareLex, Ordering.isLE_then_iff_and] at hab hbc ⊢
    refine ⟨h.trans a ha b hb c hc hab.1 hbc.1, ?_⟩
    rcases hab.2 with hlt | hab'
    · left
      cases hac : cmp a c with
      | lt => rfl
      | eq =>
        -- then `c` is as small as `a`, below `b`, and not above it
        rw [h.congr_left ha hc hb hac, h.swap b hb c hc] at hlt
        cases hbc' : cmp b c <;> simp_all
      | gt =>
        have := h.trans a ha b hb c hc hab.1 hbc.1
        simp [hac] at this
    · rcases hbc.2 with hlt | hbc'
      · left
        cases hac : cmp a c with
        | lt => rfl
        | eq =>
          have hca := h.eq_symm ha hc hac
          have hba := h.congr_left hc ha hb hca
          rw [h.swap b hb c hc, hlt] at hba
          rw [← hba] at hab
          simp at hab
        | gt =>
          have := h.trans a ha b hb c hc hab.1 hbc.1
          simp [hac] at this
      · exact .inr (hsecond.trans a ha b hb c hc hab' hbc')

end Ranks

/-! ## Stable sorts -/

/-- A list is a stable sort of another: it has the same elements, no earlier one is greater than a
later one, and those equal to any one element are in the order of the other list. -/
structure IsStableSort (cmp : α → α → Ordering) (elements sorted : List α) : Prop where
  perm : sorted.Perm elements
  ordered : sorted.Pairwise fun a b => (cmp a b).isLE
  stable : ∀ a ∈ elements,
    sorted.filter (fun b => cmp a b == .eq) = elements.filter fun b => cmp a b == .eq

namespace IsStableSort

variable {cmp : α → α → Ordering} {elements sorted sorted' : List α}

theorem mem_iff (h : IsStableSort cmp elements sorted) {a : α} : a ∈ sorted ↔ a ∈ elements :=
  h.perm.mem_iff

/-- Ties keep their order also where the element they are equal to is not in the list. -/
theorem filter_eq_of_ranks (h : IsStableSort cmp elements sorted) {a : α}
    (hranks : Ranks cmp (a :: elements)) :
    sorted.filter (fun b => cmp a b == .eq) = elements.filter fun b => cmp a b == .eq := by
  have ha : a ∈ a :: elements := List.mem_cons_self
  by_cases htie : ∃ b ∈ elements, cmp a b = .eq
  · obtain ⟨b, hb, hab⟩ := htie
    have hb' : b ∈ a :: elements := List.mem_cons_of_mem a hb
    have hsame : ∀ c ∈ elements, (cmp a c == .eq) = (cmp b c == .eq) := fun c hc => by
      rw [hranks.congr_left ha hb' (List.mem_cons_of_mem a hc) hab]
    rw [List.filter_congr hsame, ← h.stable b hb]
    exact List.filter_congr fun c hc => hsame c (h.mem_iff.1 hc)
  · have hnone : ∀ c ∈ elements, ¬(cmp a c == .eq) = true := fun c hc heq =>
      htie ⟨c, hc, by simpa using heq⟩
    rw [List.filter_eq_nil_iff.2 hnone,
      List.filter_eq_nil_iff.2 fun c hc => hnone c (h.mem_iff.1 hc)]

/-- Two sorted lists with the same ties in the same order are the same. -/
theorem eq_of_ordered : ∀ {sorted sorted' : List α}, Ranks cmp sorted → sorted.Perm sorted' →
    (sorted.Pairwise fun a b => (cmp a b).isLE) → (sorted'.Pairwise fun a b => (cmp a b).isLE) →
    (∀ a ∈ sorted, sorted.filter (fun b => cmp a b == .eq)
      = sorted'.filter fun b => cmp a b == .eq) → sorted = sorted'
  | [], sorted', _, hperm, _, _, _ => (List.nil_perm.1 hperm).symm
  | a :: rest, [], _, hperm, _, _, _ => List.perm_nil.1 hperm
  | a :: rest, b :: rest', hranks, hperm, hordered, hordered', hstable => by
    have ha : a ∈ a :: rest := List.mem_cons_self
    have hb : b ∈ a :: rest := hperm.mem_iff.2 List.mem_cons_self
    -- both heads are least, so they are equal, and then each is the first of the same ties
    have hle (x y : α) (l : List α) (hx : (x :: l).Pairwise fun a b => (cmp a b).isLE)
        (hxx : x ∈ a :: rest) (hy : y ∈ x :: l) : (cmp x y).isLE := by
      rcases List.mem_cons.1 hy with rfl | hy
      · simp [hranks.self hxx]
      · exact (List.pairwise_cons.1 hx).1 y hy
    have hab : cmp a b = .eq := hranks.eq_of_isLE_of_isLE ha hb
      (hle a b rest hordered ha hb) (hle b a rest' hordered' hb (hperm.mem_iff.1 ha))
    have heq := hstable a ha
    rw [List.filter_cons_of_pos (by simp [hranks.self ha]),
      List.filter_cons_of_pos (by simp [hab])] at heq
    obtain ⟨rfl, -⟩ := List.cons.inj heq
    rw [eq_of_ordered (hranks.subset (List.subset_cons_self a rest)) hperm.cons_inv
      (List.pairwise_cons.1 hordered).2 (List.pairwise_cons.1 hordered').2]
    intro c hc
    have hc' := hstable c (List.mem_cons_of_mem a hc)
    rw [List.filter_cons, List.filter_cons] at hc'
    split at hc'
    · exact (List.cons.inj hc').2
    · exact hc'

/-- **There is only one stable sort** by an order of the elements. -/
theorem unique (hranks : Ranks cmp elements) (h : IsStableSort cmp elements sorted)
    (h' : IsStableSort cmp elements sorted') : sorted = sorted' := by
  refine eq_of_ordered (hranks.subset h.perm.subset) (h.perm.trans h'.perm.symm) h.ordered
    h'.ordered fun a ha => ?_
  have ha := h.mem_iff.1 ha
  rw [h.stable a ha, h'.stable a ha]

/-- Leaving elements out of a stable sort leaves a stable sort of the others. -/
theorem filter (h : IsStableSort cmp elements sorted) (p : α → Bool) :
    IsStableSort cmp (elements.filter p) (sorted.filter p) where
  perm := h.perm.filter p
  ordered := h.ordered.filter p
  stable a ha := by
    rw [List.filter_comm, h.stable a (List.mem_of_mem_filter ha), List.filter_comm]

/-- A stable sort by a second comparison of a stable sort by a first one is a stable sort by the
second with the first breaking its ties. -/
theorem lex {first second : α → α → Ordering} {between : List α} (hranks : Ranks second elements)
    (h : IsStableSort first elements between) (h' : IsStableSort second between sorted) :
    IsStableSort (compareLex second first) elements sorted where
  perm := h'.perm.trans h.perm
  ordered := by
    have hties : ∀ {l : List α}, l ⊆ elements → (l.Pairwise fun a b => (second a b).isLE) →
        (∀ a ∈ l, (l.filter fun b => second a b == .eq).Pairwise fun a b => (first a b).isLE) →
        l.Pairwise fun a b => (compareLex second first a b).isLE := by
      intro l
      induction l with
      | nil => exact fun _ _ _ => .nil
      | cons a rest ih =>
        intro hsubset hsecond hfirst
        obtain ⟨hleast, hrest⟩ := List.pairwise_cons.1 hsecond
        have ha : a ∈ elements := hsubset List.mem_cons_self
        refine List.pairwise_cons.2 ⟨fun b hb => ?_, ih (List.subset_of_cons_subset hsubset) hrest
          fun c hc => ?_⟩
        · rw [compareLex, Ordering.isLE_then_iff_or]
          cases hab : second a b with
          | lt => exact .inl rfl
          | eq =>
            have htie := hfirst a List.mem_cons_self
            rw [List.filter_cons_of_pos (by simp [hranks.self ha])] at htie
            exact .inr ⟨rfl, (List.pairwise_cons.1 htie).1 b
              (List.mem_filter.2 ⟨hb, by simp [hab]⟩)⟩
          | gt => simpa [hab] using hleast b hb
        · exact (hfirst c (List.mem_cons_of_mem a hc)).sublist
            ((List.sublist_cons_self a rest).filter _)
    refine hties (fun a ha => h.mem_iff.1 (h'.mem_iff.1 ha)) h'.ordered fun a ha => ?_
    rw [h'.stable a (h'.mem_iff.1 ha)]
    exact h.ordered.filter _
  stable a ha := by
    have hsplit : ∀ b, (compareLex second first a b == .eq)
        = (first a b == .eq && second a b == .eq) := by
      intro b
      rw [compareLex]
      cases second a b <;> cases first a b <;> rfl
    simp only [hsplit, ← List.filter_filter]
    rw [h'.stable a (h.mem_iff.2 ha), List.filter_comm, h.stable a ha, List.filter_comm]

end IsStableSort

/-! ## Sorting by insertion -/

namespace StableSort

variable {cmp : α → α → Ordering}

/-- An element goes right before the first one, from the back, that it does not precede. -/
theorem insert_eq (precedes : α → α → Bool) (x : α) (sorted : List α) :
    insert precedes x sorted
      = sorted.takeWhile (precedes x) ++ x :: sorted.dropWhile (precedes x) := by
  induction sorted with
  | nil => rfl
  | cons last rest ih =>
    rw [insert, List.takeWhile_cons, List.dropWhile_cons]
    split <;> simp_all

theorem insert_map (f : α → β) (precedes : β → β → Bool) (x : α) (sorted : List α) :
    insert precedes (f x) (sorted.map f)
      = (insert (fun a b => precedes (f a) (f b)) x sorted).map f := by
  induction sorted with
  | nil => rfl
  | cons last rest ih =>
    rw [List.map_cons, insert, insert]
    split
    · rw [List.map_cons, ih]
    · rfl

/-- **Elements are sorted by comparing what they are mapped to.** -/
theorem sort_map (f : α → β) (precedes : β → β → Bool) (elements : List α) :
    sort precedes (elements.map f) = (sort (fun a b => precedes (f a) (f b)) elements).map f := by
  have hfold (sorted : List α) :
      (elements.map f).foldl (fun sorted x => insert precedes x sorted) (sorted.map f)
        = (elements.foldl (fun sorted x => insert (fun a b => precedes (f a) (f b)) x sorted)
            sorted).map f := by
    induction elements generalizing sorted with
    | nil => rfl
    | cons x rest ih => rw [List.map_cons, List.foldl_cons, List.foldl_cons, insert_map, ih]
  rw [sort, sort, List.map_reverse]
  exact congrArg List.reverse (hfold [])

/-- Where no element precedes another, they stay as they are. -/
theorem sort_of_never (elements : List α) : sort (fun _ _ => false) elements = elements := by
  have hfold (sorted : List α) :
      elements.foldl (fun sorted x => insert (fun _ _ => false) x sorted) sorted
        = elements.reverse ++ sorted := by
    induction elements generalizing sorted with
    | nil => rfl
    | cons x rest ih =>
      have hinsert : insert (fun _ _ => false) x sorted = x :: sorted := by cases sorted <;> rfl
      rw [List.foldl_cons, hinsert, ih, List.reverse_cons, List.append_assoc,
        List.singleton_append]
  rw [sort, hfold, List.append_nil, List.reverse_reverse]

/-- What an insertion leaves in front: elements that the new one is not smaller than. -/
theorem isLE_of_mem_dropWhile {elements sorted : List α} {x : α} (hranks : Ranks cmp elements)
    (hsubset : sorted ⊆ elements) (hx : x ∈ elements)
    (hordered : sorted.Pairwise fun a b => (cmp b a).isLE) {a : α}
    (ha : a ∈ sorted.dropWhile fun b => cmp x b == .lt) : (cmp a x).isLE := by
  induction sorted with
  | nil => cases ha
  | cons last rest ih =>
    rw [List.dropWhile_cons] at ha
    split at ha
    · exact ih (List.subset_of_cons_subset hsubset) (List.pairwise_cons.1 hordered).2 ha
    · rename_i hlast
      have hlast' : (cmp last x).isLE := by
        rw [hranks.swap x hx last (hsubset List.mem_cons_self)]
        cases hcmp : cmp x last <;> simp_all
      rcases List.mem_cons.1 ha with rfl | ha
      · exact hlast'
      · exact hranks.trans a (hsubset (List.mem_cons_of_mem _ ha)) last
          (hsubset List.mem_cons_self) x hx ((List.pairwise_cons.1 hordered).1 a ha) hlast'

/-- An insertion keeps the elements ordered: what stands behind the new one is smaller. -/
theorem pairwise_insert {elements sorted : List α} {x : α} (hranks : Ranks cmp elements)
    (hsubset : sorted ⊆ elements) (hx : x ∈ elements)
    (hordered : sorted.Pairwise fun a b => (cmp b a).isLE) :
    (insert (fun a b => cmp a b == .lt) x sorted).Pairwise fun a b => (cmp b a).isLE := by
  have hback := fun a => isLE_of_mem_dropWhile (a := a) hranks hsubset hx hordered
  rw [insert_eq, List.pairwise_append, List.pairwise_cons]
  refine ⟨hordered.sublist (List.takeWhile_sublist _),
    ⟨hback, hordered.sublist (List.dropWhile_sublist _)⟩, fun a ha b hb => ?_⟩
  have hfront : cmp x a = .lt := by simpa using List.mem_takeWhile_imp ha
  have hxa : (cmp x a).isLE := by simp [hfront]
  rcases List.mem_cons.1 hb with rfl | hb
  · exact hxa
  · exact hranks.trans b (hsubset ((List.dropWhile_sublist _).subset hb)) x hx a
      (hsubset ((List.takeWhile_sublist _).subset ha)) (hback b hb) hxa

/-- An insertion puts the new element behind its ties. -/
theorem filter_insert {elements sorted : List α} {x a : α} (hranks : Ranks cmp elements)
    (hsubset : sorted ⊆ elements) (hx : x ∈ elements) (ha : a ∈ elements) :
    (insert (fun a b => cmp a b == .lt) x sorted).reverse.filter (fun b => cmp a b == .eq)
      = (sorted.reverse ++ [x]).filter fun b => cmp a b == .eq := by
  have hsplit : sorted.reverse = (sorted.dropWhile fun b => cmp x b == .lt).reverse
      ++ (sorted.takeWhile fun b => cmp x b == .lt).reverse := by
    rw [← List.reverse_append, List.takeWhile_append_dropWhile]
  rw [hsplit, insert_eq, List.reverse_append, List.reverse_cons, List.append_assoc,
    List.append_assoc, List.filter_append, List.filter_append, List.filter_append,
    List.filter_append]
  by_cases hax : cmp a x = .eq
  · -- what the new element is put before is greater than it, so no tie of it
    have hnone : (sorted.takeWhile fun b => cmp x b == .lt).reverse.filter
        (fun b => cmp a b == .eq) = [] := by
      refine List.filter_eq_nil_iff.2 fun b hb => ?_
      have hb := List.mem_reverse.1 hb
      have hfront : cmp x b = .lt := by simpa using List.mem_takeWhile_imp hb
      rw [hranks.congr_left ha hx (hsubset ((List.takeWhile_sublist _).subset hb)) hax, hfront]
      decide
    rw [hnone, List.append_nil, List.nil_append]
  · rw [List.filter_cons_of_neg (by simpa using hax), List.filter_nil, List.append_nil,
      List.nil_append]

/-- One insertion takes a stable sort of some elements to one of those and one more. -/
theorem isStableSort_insert {elements sorted : List α} {x : α}
    (hranks : Ranks cmp (elements ++ [x])) (h : IsStableSort cmp elements sorted.reverse) :
    IsStableSort cmp (elements ++ [x])
      (insert (fun a b => cmp a b == .lt) x sorted).reverse := by
  have hx : x ∈ elements ++ [x] := by simp
  have hsubset : sorted ⊆ elements ++ [x] := fun a ha =>
    List.mem_append_left _ (h.mem_iff.1 (List.mem_reverse.2 ha))
  constructor
  · exact (List.reverse_perm _).trans ((insert_perm _ x sorted).trans
      ((((List.reverse_perm sorted).symm.trans h.perm).cons x).trans
        (List.perm_append_singleton x elements).symm))
  · rw [List.pairwise_reverse]
    exact pairwise_insert hranks hsubset hx (List.pairwise_reverse.1 h.ordered)
  · intro a ha
    have hstable := h.filter_eq_of_ranks (a := a)
      (hranks.subset (List.cons_subset.2 ⟨ha, List.subset_append_left elements [x]⟩))
    rw [filter_insert hranks hsubset hx ha, List.filter_append, hstable, List.filter_append]

/-- **Sorting by insertion is a stable sort.** -/
theorem isStableSort_sort {elements : List α} (hranks : Ranks cmp elements) :
    IsStableSort cmp elements (sort (fun a b => cmp a b == .lt) elements) := by
  have hfold : ∀ rest sorted : List α, ∀ done : List α, Ranks cmp (done ++ rest) →
      IsStableSort cmp done sorted.reverse →
      IsStableSort cmp (done ++ rest)
        (rest.foldl (fun sorted x =>
          insert (fun a b => cmp a b == .lt) x sorted) sorted).reverse := by
    intro rest
    induction rest with
    | nil =>
      intro sorted done _ h
      simpa using h
    | cons x rest ih =>
      intro sorted done hranks h
      rw [List.append_cons] at hranks ⊢
      exact ih _ (done ++ [x]) hranks
        (isStableSort_insert (hranks.subset (List.subset_append_left _ _)) h)
  exact hfold elements [] [] hranks ⟨.refl _, .nil, fun _ h => by cases h⟩

end StableSort

/-! ## Sorting by merging -/

/-- The elements in order, equal ones in the order in which they stand. -/
def arrange (cmp : α → α → Ordering) (elements : List α) : List α :=
  elements.mergeSort fun a b => (cmp a b).isLE

variable {cmp : α → α → Ordering} {elements : List α}

theorem map_arrange {cmp' : β → β → Ordering} {f : α → β}
    (h : ∀ a ∈ elements, ∀ b ∈ elements, cmp a b = cmp' (f a) (f b)) :
    (arrange cmp elements).map f = arrange cmp' (elements.map f) :=
  List.map_mergeSort fun a ha b hb => by rw [h a ha b hb]

theorem arrange_perm (cmp : α → α → Ordering) (elements : List α) :
    (arrange cmp elements).Perm elements :=
  List.mergeSort_perm _ _

/-- **Sorting by merging is a stable sort.**  The library knows this of comparisons that are an
order of all elements of their type, so the elements are first given the type of the members of the
list. -/
theorem isStableSort_arrange (hranks : Ranks cmp elements) :
    IsStableSort cmp elements (arrange cmp elements) := by
  let le (a b : { a // a ∈ elements }) : Bool := (cmp a.1 b.1).isLE
  have htrans : ∀ a b c, le a b → le b c → le a c := fun a b c =>
    hranks.trans a.1 a.2 b.1 b.2 c.1 c.2
  have htotal : ∀ a b, le a b || le b a := fun a b => by
    simpa [le] using hranks.total a.2 b.2
  have hmembers : (elements.attach.mergeSort le).map Subtype.val = arrange cmp elements := by
    rw [List.map_mergeSort (s := fun a b => (cmp a b).isLE) fun _ _ _ _ => rfl,
      List.attach_map_subtype_val, arrange]
  refine ⟨arrange_perm cmp elements, ?_, fun a ha => ?_⟩
  · rw [← hmembers, List.pairwise_map]
    exact List.pairwise_mergeSort htrans htotal _
  · let ties := elements.attach.filter fun b => cmp a b.1 == .eq
    have hties : ties.map Subtype.val = elements.filter fun b => cmp a b == .eq := by
      conv_rhs => rw [← List.attach_map_subtype_val elements, List.filter_map]
      rfl
    have hpairwise : ties.Pairwise fun b c => le b c := by
      refine List.pairwise_of_forall_mem_list fun b hb c hc => ?_
      have hab : cmp a b.1 = .eq := by simpa using (List.mem_filter.1 hb).2
      have hac : cmp a c.1 = .eq := by simpa using (List.mem_filter.1 hc).2
      have hbc := hranks.congr_left ha b.2 c.2 hab
      simp [le, ← hbc, hac]
    have hsublist : (elements.filter fun b => cmp a b == .eq).Sublist (arrange cmp elements) := by
      rw [← hties, ← hmembers]
      exact (List.sublist_mergeSort htrans htotal hpairwise List.filter_sublist).map _
    have hfilter := hsublist.filter fun b => cmp a b == .eq
    rw [List.filter_filter] at hfilter
    have hlength := ((arrange_perm cmp elements).filter fun b => cmp a b == .eq).length_eq
    exact (List.Sublist.eq_of_length (by simpa using hfilter) hlength.symm).symm

/-- Sorting by insertion and by merging are the same where the comparison is an order. -/
theorem StableSort.sort_eq_arrange (hranks : Ranks cmp elements) :
    sort (fun a b => cmp a b == .lt) elements = arrange cmp elements :=
  (isStableSort_sort hranks).unique hranks (isStableSort_arrange hranks)

/-- **Sorting commutes with leaving elements out.** -/
theorem arrange_filter (hranks : Ranks cmp elements) (p : α → Bool) :
    arrange cmp (elements.filter p) = (arrange cmp elements).filter p :=
  have hranks' := hranks.subset (List.filter_subset_self elements)
  (isStableSort_arrange hranks').unique hranks' ((isStableSort_arrange hranks).filter p)

/-- **Sorting twice is sorting once**, by the later comparison with the earlier one breaking its
ties. -/
theorem arrange_arrange {first second : α → α → Ordering} (hfirst : Ranks first elements)
    (hsecond : Ranks second elements) :
    arrange second (arrange first elements) = arrange (compareLex second first) elements := by
  have hbetween := isStableSort_arrange hfirst
  have hranks := hsecond.lex hfirst
  exact (hbetween.lex hsecond
    (isStableSort_arrange (hsecond.subset hbetween.perm.subset))).unique hranks
      (isStableSort_arrange hranks)

/-- What is in order already stays as it is. -/
theorem arrange_of_ordered (h : elements.Pairwise fun a b => (cmp a b).isLE) :
    arrange cmp elements = elements :=
  List.mergeSort_of_pairwise h

end ODataQuery
