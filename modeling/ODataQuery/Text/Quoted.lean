/-!
# Quoted text

Text between an opening and a closing mark, in which the closing mark is written twice.  String
literals and SQL identifiers are both written this way.

* `encode` writes the text with its marks.
* `decode` reads up to the first closing mark that stands alone and returns what follows it;
  `decode_encode` says that it undoes `encode` before any text that does not go on with the mark.
-/

set_option autoImplicit false

namespace ODataQuery
namespace Text
namespace Quoted

/-- The text with every closing mark written twice. -/
def double (close : Char) (text : List Char) : List Char :=
  text.flatMap fun c => if c = close then [close, close] else [c]

/-- The text between its marks. -/
def encode (opening close : Char) (text : List Char) : List Char :=
  opening :: double close text ++ [close]

/-- Read text up to the first closing mark that is not written twice: the text, and what follows
the mark.  There is no answer if no such mark follows. -/
def decode (close : Char) : List Char → Option (List Char × List Char)
  | [] => none
  | [c] => if c = close then some ([], []) else none
  | c :: next :: tail =>
    if c = close then
      if next = close then (decode close tail).map fun (text, rest) => (close :: text, rest)
      else some ([], next :: tail)
    else (decode close (next :: tail)).map fun (text, rest) => (c :: text, rest)

theorem decode_cons_of_ne {close c : Char} (h : c ≠ close) (rest : List Char) :
    decode close (c :: rest) = (decode close rest).map fun (text, rest) => (c :: text, rest) := by
  cases rest <;> simp [decode, h]

@[simp] theorem double_nil (close : Char) : double close [] = [] := rfl

theorem double_cons (close c : Char) (text : List Char) :
    double close (c :: text)
      = (if c = close then [close, close] else [c]) ++ double close text := rfl

/-- Reading undoes writing, whatever the text holds, as long as the text that follows does not
begin with the closing mark. -/
theorem decode_encode {close : Char} {rest : List Char} (hrest : rest.head? ≠ some close)
    (text : List Char) : decode close (double close text ++ close :: rest) = some (text, rest) := by
  induction text with
  | nil =>
    cases rest with
    | nil => simp [decode]
    | cons next tail =>
      have : next ≠ close := by simpa using hrest
      simp [decode, this]
  | cons c text ih =>
    rw [double_cons]
    by_cases h : c = close
    · subst h
      simp [decode, ih]
    · simp only [h, if_false, List.cons_append, List.nil_append]
      rw [decode_cons_of_ne h, ih]
      rfl

end Quoted
end Text
end ODataQuery
