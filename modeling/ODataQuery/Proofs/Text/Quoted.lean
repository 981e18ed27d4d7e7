import ODataQuery.Text.Quoted

/-!
# Quoted text is read in one way

A closing mark inside quoted text is written twice, so the first one that stands alone ends it.

* `Quoted.eq_of_decode`: only written text is read.
* `Quoted.decode_eq_some_iff`: so a text is read exactly where it is written and what follows does
  not go on with the closing mark.
* `Quoted.encode_append_inj`: quoted text is told apart from what follows it.
-/

set_option autoImplicit false

namespace ODataQuery
namespace Text
namespace Quoted

variable {opening close : Char} {input text text' rest rest' : List Char}

/-- Only a written text is read, with its closing mark before what follows. -/
theorem eq_of_decode (h : decode close input = some (text, rest)) :
    input = double close text ++ close :: rest ∧ rest.head? ≠ some close := by
  fun_induction decode close input generalizing text rest with
  | case1 => cases h
  | case2 =>
    cases h
    exact ⟨rfl, by simp⟩
  | case3 => cases h
  | case4 tail ih =>
    obtain ⟨⟨text', rest'⟩, hd, he⟩ := Option.map_eq_some_iff.1 h
    cases he
    obtain ⟨rfl, hrest⟩ := ih hd
    exact ⟨by rw [double_cons, if_pos rfl, List.append_assoc]; rfl, hrest⟩
  | case5 next tail hnext =>
    cases h
    exact ⟨rfl, by simpa using hnext⟩
  | case6 c next tail hc ih =>
    obtain ⟨⟨text', rest'⟩, hd, he⟩ := Option.map_eq_some_iff.1 h
    cases he
    obtain ⟨htail, hrest⟩ := ih hd
    exact ⟨by rw [double_cons, if_neg hc, htail]; rfl, hrest⟩

/-- **A text is read exactly where it is written**, up to its closing mark, and what follows does
not begin with that mark. -/
theorem decode_eq_some_iff :
    decode close input = some (text, rest)
      ↔ input = double close text ++ close :: rest ∧ rest.head? ≠ some close := by
  refine ⟨eq_of_decode, ?_⟩
  rintro ⟨rfl, hrest⟩
  exact decode_encode hrest text

/-- Quoted text is read up to its closing mark. -/
theorem encode_append_inj (hrest : rest.head? ≠ some close) (hrest' : rest'.head? ≠ some close)
    (h : encode opening close text ++ rest = encode opening close text' ++ rest') :
    text = text' ∧ rest = rest' := by
  have htail : double close text ++ close :: rest = double close text' ++ close :: rest' := by
    simpa [encode] using h
  have hread := decode_eq_some_iff.2 ⟨htail, hrest'⟩
  rw [decode_encode hrest, Option.some.injEq, Prod.mk.injEq] at hread
  exact hread

end Quoted
end Text
end ODataQuery
