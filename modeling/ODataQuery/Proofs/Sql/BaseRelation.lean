import Mathlib.Data.List.TakeWhile
import ODataQuery.Proofs.Number.Digits
import ODataQuery.Sql.Table
import ODataQuery.Text.Letter

/-!
# Which texts are queries

The text of a table is taken for a query by the keyword that it begins with, and for a name if it
begins with none.

* `Sql.firstWord`: the word that a text begins with; `Sql.isQueryKeyword`: is it the first keyword
  of a query.
* `Sql.ExtendsKeyword`: a word goes on behind such a keyword, with no letter of the basic alphabet.
* `Sql.baseRelation_raw_iff`: a text is taken for a query if its first word is a keyword, and also
  if the word extends one.
-/

set_option autoImplicit false

namespace ODataQuery
namespace Text

/-- The letters of the basic alphabet are the upper case and the lower case ones. -/
theorem toNat_of_isAlpha {c : Char} (h : c.isAlpha = true) :
    c.toNat ∈ List.range' 65 26 ++ List.range' 97 26 := by
  rw [List.mem_append, List.mem_range'_1, List.mem_range'_1]
  have hcases : c.isUpper = true ∨ c.isLower = true := Bool.or_eq_true_iff.1 h
  rcases hcases with hupper | hlower
  · obtain ⟨hlow, hhigh⟩ := of_decide_eq_true hupper
    have hlow : 65 ≤ c.toNat := hlow
    have hhigh : c.toNat ≤ 90 := hhigh
    omega
  · obtain ⟨hlow, hhigh⟩ := Bool.and_eq_true_iff.1 hlower
    have hlow : 97 ≤ c.toNat := of_decide_eq_true hlow
    have hhigh : c.toNat ≤ 122 := of_decide_eq_true hhigh
    omega

/-- The letters of the basic alphabet may stand in names. -/
theorem isNamePart_of_isAlpha {c : Char} (h : c.isAlpha = true) : isNamePart c = true := by
  have hall : (List.range' 65 26 ++ List.range' 97 26).all
      (CharacterTables.covers CharacterTables.alphabetic) = true := by
    decide
  have halphabetic : isAlphabetic c = true := List.all_eq_true.1 hall _ (toNat_of_isAlpha h)
  rw [isNamePart, halphabetic, Bool.true_or, Bool.true_or]

theorem isAlpha_of_toLower {c : Char} (h : c.toLower.isAlpha = true) : c.isAlpha = true := by
  cases hupper : c.isUpper with
  | true => exact Bool.or_eq_true_iff.2 (.inl hupper)
  | false =>
    have hsame : c.toLower = c := dif_neg (of_decide_eq_false hupper)
    rwa [hsame] at h

end Text

namespace Sql

/-! ## Words and keywords -/

/-- The word that a text begins with behind leading blanks: its letters, digits and underscores up
to the first character that is none of them. -/
def firstWord (sql : String) : List Char :=
  (Text.trimStart sql.toList).takeWhile Text.isNamePart

/-- Is a word `SELECT` or `WITH`, in any case. -/
def isQueryKeyword (word : List Char) : Bool :=
  word.map Char.toLower = "select".toList || word.map Char.toLower = "with".toList

/-- A word goes on behind a keyword, with a digit, an underscore or a letter beyond the basic
alphabet. -/
def ExtendsKeyword (word : List Char) : Prop :=
  ∃ keyword c rest, word = keyword ++ c :: rest ∧ isQueryKeyword keyword = true
    ∧ c.isAlpha = false

theorem isAlpha_of_isQueryKeyword {word : List Char} (h : isQueryKeyword word = true) :
    ∀ c ∈ word, c.isAlpha = true := by
  have hletters : ("select".toList ++ "with".toList).all Char.isAlpha = true := rfl
  rw [isQueryKeyword, Bool.or_eq_true, decide_eq_true_eq, decide_eq_true_eq] at h
  intro c hc
  have hlower : c.toLower ∈ word.map Char.toLower := List.mem_map_of_mem hc
  refine Text.isAlpha_of_toLower (List.all_eq_true.1 hletters _ (List.mem_append.2 ?_))
  rcases h with h | h
  · exact .inl (h ▸ hlower)
  · exact .inr (h ▸ hlower)

/-- A keyword does not extend one. -/
theorem not_extendsKeyword {word : List Char} (h : isQueryKeyword word = true) :
    ¬ ExtendsKeyword word := by
  rintro ⟨keyword, c, rest, rfl, -, hc⟩
  rw [isAlpha_of_isQueryKeyword h c (List.mem_append_right _ List.mem_cons_self)] at hc
  cases hc

/-- The letters that a word begins with are a keyword if they are the whole word and it is one, or
if the word extends them. -/
theorem isQueryKeyword_takeWhile {word : List Char} :
    isQueryKeyword (word.takeWhile Char.isAlpha) = true
      ↔ isQueryKeyword word = true ∨ ExtendsKeyword word := by
  constructor
  · intro h
    have hword := List.takeWhile_append_dropWhile (p := Char.isAlpha) (l := word)
    have hstop := List.head?_dropWhile_not Char.isAlpha word
    cases hrest : word.dropWhile Char.isAlpha with
    | nil =>
      rw [hrest, List.append_nil] at hword
      rw [hword] at h
      exact .inl h
    | cons c rest =>
      rw [hrest] at hword hstop
      exact .inr ⟨_, c, rest, hword.symm, h, hstop⟩
  · rintro (h | ⟨keyword, c, rest, rfl, h, hc⟩)
    · rwa [List.takeWhile_eq_self_iff.2 (isAlpha_of_isQueryKeyword h)]
    · rwa [Text.takeWhile_append_of_stop (isAlpha_of_isQueryKeyword h)]
      intro other hother
      cases hother
      exact hc

/-- Only the letters that the first word begins with are looked at. -/
theorem isQuery_eq (sql : String) :
    isQuery sql = isQueryKeyword ((firstWord sql).takeWhile Char.isAlpha) := by
  have hletters : (firstWord sql).takeWhile Char.isAlpha
      = (Text.trimStart sql.toList).takeWhile Char.isAlpha := by
    rw [firstWord, List.takeWhile_takeWhile]
    congr 1
    funext c
    cases h : c.isAlpha with
    | false => simp
    | true => simp [Text.isNamePart_of_isAlpha h]
  rw [hletters]
  rfl

/-! ## Tables and queries -/

/-- **Which texts become derived tables.**  A text does if its first word is a keyword of queries,
but also if that word goes on behind the keyword with a character that is no letter of the basic
alphabet.  Any other text is the name of a table. -/
theorem baseRelation_raw_iff (sql aliasName : String) :
    (baseRelation sql aliasName = .raw (String.ofList (Text.trim sql.toList)) aliasName
        ↔ isQueryKeyword (firstWord sql) = true ∨ ExtendsKeyword (firstWord sql))
      ∧ (baseRelation sql aliasName
          = .table (.table (String.ofList (Text.trim sql.toList))) aliasName
        ↔ ¬ (isQueryKeyword (firstWord sql) = true ∨ ExtendsKeyword (firstWord sql)))
      ∧ ¬ (isQueryKeyword (firstWord sql) = true ∧ ExtendsKeyword (firstWord sql)) := by
  rw [← isQueryKeyword_takeWhile, ← isQuery_eq, baseRelation]
  refine ⟨?_, ?_, fun h => not_extendsKeyword h.1 h.2⟩
  · split
    · rename_i h
      exact ⟨fun _ => h, fun _ => rfl⟩
    · rename_i h
      exact ⟨nofun, fun h' => absurd h' h⟩
  · split
    · rename_i h
      exact ⟨nofun, fun h' => absurd h h'⟩
    · rename_i h
      exact ⟨fun _ => h, fun _ => rfl⟩

/-- The name of a table of selected items becomes a derived table, although its first word is no
keyword. -/
theorem exists_raw_of_extended_keyword :
    isQueryKeyword (firstWord "select_items") = false
      ∧ baseRelation "select_items" "q" = .raw "select_items" "q" :=
  ⟨by decide +kernel, rfl⟩

end Sql
end ODataQuery
