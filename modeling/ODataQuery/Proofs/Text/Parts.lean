import Mathlib.Data.List.Infix
import ODataQuery.Text.Quoted

/-!
# Parts of texts

A text that is put together with marks between its pieces holds what its pieces hold, as far as no
mark is looked for.  Quoting puts a mark around a text and writes the marks inside it twice, so it
keeps the parts of the text in the same sense.

* `infix_append_cons_iff`: a part without the mark stands on one side of it;
  `infix_ended_append_iff`: or in one of many pieces.
* `Quoted.infix_encode_iff`: a quoted text has the parts of the text.
* `lines`: the lines of a text; `lines_join_eq_iff`: lines that are each ended are read back exactly
  if none of them holds a line break.
-/

set_option autoImplicit false

namespace ODataQuery
namespace Text

variable {α : Type} {mark : α} {part : List α}

/-! ## Parts around a mark -/

/-- What begins before a mark and does not hold it ends before it. -/
theorem prefix_append_cons_iff (hmark : mark ∉ part) {before after : List α} :
    part <+: before ++ mark :: after ↔ part <+: before := by
  refine ⟨fun h => ?_, fun h => h.trans (List.prefix_append before _)⟩
  rcases List.prefix_or_prefix_of_prefix h (List.prefix_append before _) with h' | ⟨rest, rfl⟩
  · exact h'
  · rw [List.prefix_append_right_inj] at h
    cases rest with
    | nil => rw [List.append_nil]
    | cons first rest =>
      rw [List.cons_prefix_cons] at h
      exact absurd (by simp [h.1]) hmark

/-- **A part without the mark stands on one side of it.** -/
theorem infix_append_cons_iff (hmark : mark ∉ part) {before after : List α} :
    part <:+: before ++ mark :: after ↔ part <:+: before ∨ part <:+: after := by
  induction before with
  | nil =>
    rw [List.nil_append, List.infix_cons_iff, ← List.nil_append (mark :: after),
      prefix_append_cons_iff hmark, List.prefix_nil, List.infix_nil]
  | cons first before ih =>
    rw [List.cons_append, List.infix_cons_iff, ih, ← List.cons_append,
      prefix_append_cons_iff hmark, List.infix_cons_iff, or_assoc]

theorem infix_mark_cons_iff (hmark : mark ∉ part) {text : List α} :
    part <:+: mark :: text ↔ part <:+: text := by
  rw [← List.nil_append (mark :: text), infix_append_cons_iff hmark, List.infix_nil,
    or_iff_right_of_imp]
  rintro rfl
  exact List.nil_infix

theorem infix_append_mark_iff (hmark : mark ∉ part) {text : List α} :
    part <:+: text ++ [mark] ↔ part <:+: text := by
  rw [infix_append_cons_iff hmark, List.infix_nil, or_iff_left_of_imp]
  rintro rfl
  exact List.nil_infix

/-- **A part without the mark stands in one of the pieces** that it ends, or behind them. -/
theorem infix_ended_append_iff (hmark : mark ∉ part) {pieces : List (List α)} {rest : List α} :
    part <:+: pieces.flatMap (· ++ [mark]) ++ rest
      ↔ (∃ piece ∈ pieces, part <:+: piece) ∨ part <:+: rest := by
  induction pieces with
  | nil => simp
  | cons piece pieces ih =>
    rw [List.flatMap_cons, List.append_assoc, List.append_assoc, List.singleton_append,
      infix_append_cons_iff hmark, ih, ← or_assoc]
    simp

/-- With marks between them, every piece but the last is ended. -/
theorem intercalate_concat (pieces : List (List α)) (last : List α) :
    [mark].intercalate (pieces ++ [last]) = pieces.flatMap (· ++ [mark]) ++ last := by
  induction pieces with
  | nil => simp
  | cons piece pieces ih =>
    rw [List.cons_append, List.intercalate_cons_of_ne_nil (by simp), ih, List.flatMap_cons]
    simp only [List.append_assoc]

/-! ## Parts of quoted texts -/

namespace Quoted

variable {opening close : Char} {part : List Char}

theorem double_append (close : Char) (first second : List Char) :
    double close (first ++ second) = double close first ++ double close second :=
  List.flatMap_append

theorem prefix_double_iff (hclose : close ∉ part) {text : List Char} :
    part <+: double close text ↔ part <+: text := by
  induction text generalizing part with
  | nil => rfl
  | cons c text ih =>
    cases part with
    | nil => simp
    | cons first part =>
      rw [List.mem_cons, not_or] at hclose
      rw [double_cons, List.cons_prefix_cons]
      by_cases hc : c = close
      · rw [if_pos hc, List.cons_append, List.cons_prefix_cons, hc]
        simp [Ne.symm hclose.1]
      · rw [if_neg hc, List.singleton_append, List.cons_prefix_cons, ih hclose.2]

/-- Writing the mark twice adds no parts but those that hold it. -/
theorem infix_double_iff (hclose : close ∉ part) {text : List Char} :
    part <:+: double close text ↔ part <:+: text := by
  induction text with
  | nil => rfl
  | cons c text ih =>
    by_cases hc : c = close
    · subst hc
      rw [double_cons, if_pos rfl, List.cons_append, List.singleton_append,
        infix_mark_cons_iff hclose, infix_mark_cons_iff hclose, infix_mark_cons_iff hclose, ih]
    · rw [List.infix_cons_iff, ← prefix_double_iff hclose, ← ih, double_cons, if_neg hc,
        List.singleton_append, List.infix_cons_iff]

/-- **A quoted text has the parts of the text**, as far as they hold none of the marks. -/
theorem infix_encode_iff (hopening : opening ∉ part) (hclose : close ∉ part) {text : List Char} :
    part <:+: encode opening close text ↔ part <:+: text := by
  rw [encode, List.cons_append, infix_mark_cons_iff hopening, infix_append_mark_iff hclose,
    infix_double_iff hclose]

end Quoted

/-! ## Lines -/

/-- The lines of a text.  What follows the last line break is a line, too. -/
def lines (text : String) : List String :=
  (text.toList.splitOn '\n').map String.ofList

theorem not_mem_of_mem_splitOn [DecidableEq α] {text piece : List α}
    (h : piece ∈ text.splitOn mark) : mark ∉ piece := by
  induction text generalizing piece with
  | nil => simp_all
  | cons c text ih =>
    rw [List.splitOn_cons_eq_if_modifyHead] at h
    split at h
    · rcases List.mem_cons.1 h with rfl | h
      · exact List.not_mem_nil
      · exact ih h
    · rename_i hc
      cases hpieces : text.splitOn mark with
      | nil => exact absurd hpieces (List.splitOn_ne_nil _ _)
      | cons first rest =>
        rw [hpieces, List.modifyHead_cons] at h
        rcases List.mem_cons.1 h with rfl | h
        · have hfirst : mark ∉ first := ih (hpieces ▸ List.mem_cons_self)
          rw [List.mem_cons, not_or]
          exact ⟨fun hmark => hc (beq_iff_eq.2 hmark.symm), hfirst⟩
        · exact ih (hpieces ▸ List.mem_cons_of_mem _ h)

/-- Pieces that are each ended by a mark are cut at their own marks, too. -/
theorem splitOn_ended [DecidableEq α] (pieces : List (List α)) :
    (pieces.flatMap (· ++ [mark])).splitOn mark = pieces.flatMap (·.splitOn mark) ++ [[]] := by
  induction pieces with
  | nil => simp
  | cons piece rest ih =>
    rw [List.flatMap_cons, List.append_assoc, List.singleton_append,
      List.splitOn_append_cons_self, ih, List.flatMap_cons, List.append_assoc]

/-- **Pieces that are each ended by a mark are read back** exactly if none of them holds it. -/
theorem splitOn_ended_eq_iff [DecidableEq α] {pieces : List (List α)} :
    (pieces.flatMap (· ++ [mark])).splitOn mark = pieces ++ [[]]
      ↔ ∀ piece ∈ pieces, mark ∉ piece := by
  rw [splitOn_ended, List.append_cancel_right_eq]
  constructor
  · intro h piece hpiece
    rw [← h] at hpiece
    obtain ⟨_, -, hmem⟩ := List.mem_flatMap.1 hpiece
    exact not_mem_of_mem_splitOn hmem
  · intro h
    calc pieces.flatMap (·.splitOn mark)
      _ = pieces.flatMap ([·]) := by
        rw [List.flatMap_congr]
        exact fun piece hpiece => List.splitOn_eq_singleton (h piece hpiece)
      _ = pieces := List.flatMap_singleton' pieces

/-- **Lines that are each ended are read back** exactly if none of them holds a line break. -/
theorem lines_join_eq_iff {pieces : List String} :
    lines (String.join (pieces.map (· ++ "\n"))) = pieces ++ [""]
      ↔ ∀ piece ∈ pieces, '\n' ∉ piece.toList := by
  have hended : (String.join (pieces.map (· ++ "\n"))).toList
      = (pieces.map String.toList).flatMap (· ++ ['\n']) := by
    simp [String.toList_join, List.flatMap_map]
  have hpieces : pieces ++ [""] = (pieces.map String.toList ++ [[]]).map String.ofList := by
    simp [Function.comp_def]
  rw [lines, hended, hpieces, (List.map_injective_iff.2 fun _ _ => String.ofList_injective).eq_iff,
    splitOn_ended_eq_iff, List.forall_mem_map]

end Text
end ODataQuery
