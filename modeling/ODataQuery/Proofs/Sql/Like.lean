import Mathlib.Data.List.Infix
import ODataQuery.Records.Operations
import ODataQuery.Sql.Condition

/-!
# What `LIKE` patterns match

A pattern is read as a list of items, and the items are matched against the characters of a subject
one after the other.

* `Like.Item`, `Like.items?`: the items of a pattern.  A percent sign stands for any run of
  characters, an underscore for any one character, and after the escape character every character
  stands for itself.  Only Transact-SQL has classes of characters in brackets.
* `Like.Item.matching`, `Like.holds`: do items, or a pattern, match a text from its start to its
  end.
* `Like.items?_escape_append`: an escaped text is read as its own characters, whatever follows it.
* `Like.holds_likePattern`: the pattern of a test on strings matches exactly the strings that pass
  the test.
-/

set_option autoImplicit false

namespace ODataQuery
namespace Sql

/-- Does the family of dialects have classes of characters in its patterns. -/
def FunctionStyle.hasClasses : FunctionStyle → Bool
  | transactSql => true
  | postgres | sqlite => false

namespace Like

/-! ## Patterns -/

/-- One item of a pattern. -/
inductive Item where
  | char (c : Char)
  | anyRun
  | anyOne
  /-- A character inside some ranges, or, negated, outside all of them. -/
  | oneOf (negated : Bool) (ranges : List (Char × Char))
  deriving DecidableEq, Repr

/-- The ranges that the inside of a pair of brackets lists. -/
def ranges : List Char → List (Char × Char)
  | low :: '-' :: high :: rest => (low, high) :: ranges rest
  | c :: rest => (c, c) :: ranges rest
  | [] => []

/-- The class that the inside of a pair of brackets denotes. -/
def classItem : List Char → Item
  | '^' :: members => .oneOf true (ranges members)
  | members => .oneOf false (ranges members)

/-- Where the reading of a pattern stands: between two items, right after the escape character, or
in the middle of a class, of which some members are read. -/
inductive Reading where
  | between
  | escaped
  | inClass (members : List Char)

/-- The items of a pattern.  A pattern that ends after the escape character or in the middle of a
class has none. -/
def items? (style : FunctionStyle) (escape : Char) : Reading → List Char → Option (List Item)
  | .between, [] => some []
  | .escaped, [] | .inClass _, [] => none
  | .escaped, c :: rest => (items? style escape .between rest).map (.char c :: ·)
  | .inClass members, c :: rest =>
    if c = ']' then (items? style escape .between rest).map (classItem members :: ·)
    else items? style escape (.inClass (members ++ [c])) rest
  | .between, c :: rest =>
    if c = escape then items? style escape .escaped rest
    else if c = '%' then (items? style escape .between rest).map (.anyRun :: ·)
    else if c = '_' then (items? style escape .between rest).map (.anyOne :: ·)
    else if c = '[' ∧ style.hasClasses then items? style escape (.inClass []) rest
    else (items? style escape .between rest).map (.char c :: ·)

namespace Item

/-- Does an item for one character match it. -/
def accepts : Item → Char → Bool
  | char expected, c => c = expected
  | anyRun, _ => false
  | anyOne, _ => true
  | oneOf negated ranges, c => (ranges.any fun range => range.1 ≤ c && c ≤ range.2) != negated

/-- Do items match a text from its start to its end. -/
def matching : List Item → List Char → Bool
  | [], text => text.isEmpty
  | anyRun :: items, text => text.tails.any (matching items)
  | _ :: _, [] => false
  | item :: items, c :: text => item.accepts c && matching items text

theorem matching_nil_iff {text : List Char} : matching [] text = true ↔ text = [] := by
  rw [matching, List.isEmpty_iff]

/-- A run takes any part of the text, and the other items the rest. -/
theorem matching_anyRun_iff {items : List Item} {text : List Char} :
    matching (anyRun :: items) text = true
      ↔ ∃ skipped rest, text = skipped ++ rest ∧ matching items rest = true := by
  rw [matching, List.any_eq_true]
  constructor
  · rintro ⟨rest, hmem, hrest⟩
    obtain ⟨skipped, rfl⟩ := (List.mem_tails rest text).1 hmem
    exact ⟨skipped, rest, rfl, hrest⟩
  · rintro ⟨skipped, rest, rfl, hrest⟩
    exact ⟨rest, (List.mem_tails rest _).2 ⟨skipped, rfl⟩, hrest⟩

/-- A lone run matches everything. -/
theorem matching_anyRun (text : List Char) : matching [anyRun] text = true :=
  matching_anyRun_iff.2 ⟨text, [], by simp, rfl⟩

/-- Characters that stand for themselves match only the text they spell. -/
theorem matching_chars_append_iff {literal text : List Char} {items : List Item} :
    matching (literal.map char ++ items) text = true
      ↔ ∃ rest, text = literal ++ rest ∧ matching items rest = true := by
  induction literal generalizing text with
  | nil => simp
  | cons expected literal ih =>
    cases text with
    | nil => simp [matching]
    | cons c text =>
      rw [List.map_cons, List.cons_append, matching, Bool.and_eq_true, ih]
      · simp only [accepts, decide_eq_true_eq, List.cons_append, List.cons.injEq]
        constructor
        · rintro ⟨rfl, rest, rfl, hrest⟩
          exact ⟨rest, ⟨rfl, rfl⟩, hrest⟩
        · rintro ⟨rest, ⟨rfl, rfl⟩, hrest⟩
          exact ⟨rfl, rest, rfl, hrest⟩
      · simp

end Item

/-- Does a pattern match a subject, in the dialects of a family. -/
def holds (style : FunctionStyle) (escape : Char) (subject pattern : List Char) : Bool :=
  match items? style escape .between pattern with
  | some items => Item.matching items subject
  | none => false

/-! ## Escaped texts -/

variable {dialect : Dialect} {c : Char}

attribute [local simp] items?

theorem percent_mem_likeWildcards (dialect : Dialect) : '%' ∈ dialect.likeWildcards := by
  rw [Dialect.likeWildcards]
  split <;> simp

theorem underscore_mem_likeWildcards (dialect : Dialect) : '_' ∈ dialect.likeWildcards := by
  rw [Dialect.likeWildcards]
  split <;> simp

theorem bracket_mem_likeWildcards (h : dialect.functions.hasClasses = true) :
    '[' ∈ dialect.likeWildcards := by
  cases hstyle : dialect.functions <;> simp_all [Dialect.likeWildcards, FunctionStyle.hasClasses]

/-- A character that needs no escape is read as itself. -/
theorem items?_cons_of_plain (hescape : c ≠ escapeCharacter) (hplain : c ∉ dialect.likeWildcards)
    (rest : List Char) :
    items? dialect.functions escapeCharacter .between (c :: rest)
      = (items? dialect.functions escapeCharacter .between rest).map (.char c :: ·) := by
  have hpercent : c ≠ '%' := fun h => hplain (h ▸ percent_mem_likeWildcards dialect)
  have hunderscore : c ≠ '_' := fun h => hplain (h ▸ underscore_mem_likeWildcards dialect)
  have hbracket : ¬(c = '[' ∧ dialect.functions.hasClasses) :=
    fun h => hplain (h.1 ▸ bracket_mem_likeWildcards h.2)
  rw [items?, if_neg hescape, if_neg hpercent, if_neg hunderscore, if_neg hbracket]

/-- **An escaped text is read as its own characters**, whatever follows it. -/
theorem items?_escape_append (text rest : List Char) :
    items? dialect.functions escapeCharacter .between (escape dialect.likeWildcards text ++ rest)
      = (items? dialect.functions escapeCharacter .between rest).map (text.map Item.char ++ ·) := by
  induction text with
  | nil => simp [escape]
  | cons c text ih =>
    have hcons : escape dialect.likeWildcards (c :: text)
        = (if c = escapeCharacter ∨ c ∈ dialect.likeWildcards then [escapeCharacter, c] else [c])
          ++ escape dialect.likeWildcards text := by
      rw [escape, List.flatMap_cons, escape]
    rw [hcons, List.append_assoc]
    split
    · rw [List.cons_append, List.cons_append, List.nil_append, items?, if_pos rfl, items?, ih,
        Option.map_map]
      rfl
    · rename_i hplain
      rw [not_or] at hplain
      rw [List.singleton_append, items?_cons_of_plain hplain.1 hplain.2, ih, Option.map_map]
      rfl

theorem items?_escape (text : List Char) :
    items? dialect.functions escapeCharacter .between (escape dialect.likeWildcards text)
      = some (text.map Item.char) := by
  rw [← List.append_nil (escape _ _), items?_escape_append, items?, Option.map_some,
    List.append_nil]

/-- A percent sign is read as a run. -/
theorem items?_percent (style : FunctionStyle) (rest : List Char) :
    items? style escapeCharacter .between ('%' :: rest)
      = (items? style escapeCharacter .between rest).map (.anyRun :: ·) := by
  rw [items?, if_neg (by decide), if_pos rfl]

/-! ## Tests on strings

Each of the three patterns that tests on strings are written as matches exactly the subjects that
the test asks for.  Equality of the answers is stated through the relations that they decide,
because both sides are Booleans. -/

theorem holds_of_items {style : FunctionStyle} {pattern subject : List Char} {items : List Item}
    (h : items? style escapeCharacter .between pattern = some items) :
    holds style escapeCharacter subject pattern = Item.matching items subject := by
  rw [holds, h]

theorem occursIn_iff_isInfix {text subject : List Char} :
    Value.occursIn text subject = true ↔ text <:+: subject := by
  induction subject with
  | nil => simp [Value.occursIn]
  | cons c rest ih =>
    rw [Value.occursIn, Bool.or_eq_true, ih, List.isPrefixOf_iff_prefix, List.infix_cons_iff]

/-- The pattern of an escaped text and a run matches what starts with the text. -/
theorem holds_escape_percent (text subject : List Char) :
    holds dialect.functions escapeCharacter subject (escape dialect.likeWildcards text ++ ['%'])
      = text.isPrefixOf subject := by
  have hitems : items? dialect.functions escapeCharacter .between
      (escape dialect.likeWildcards text ++ ['%']) = some (text.map Item.char ++ [.anyRun]) := by
    rw [items?_escape_append, items?_percent]
    rfl
  rw [holds_of_items hitems, Bool.eq_iff_iff, Item.matching_chars_append_iff,
    List.isPrefixOf_iff_prefix]
  constructor
  · rintro ⟨rest, rfl, -⟩
    exact List.prefix_append text rest
  · rintro ⟨rest, rfl⟩
    exact ⟨rest, rfl, Item.matching_anyRun rest⟩

/-- The pattern of a run and an escaped text matches what ends with the text. -/
theorem holds_percent_escape (text subject : List Char) :
    holds dialect.functions escapeCharacter subject ('%' :: escape dialect.likeWildcards text)
      = text.isSuffixOf subject := by
  have hitems : items? dialect.functions escapeCharacter .between
      ('%' :: escape dialect.likeWildcards text) = some (.anyRun :: text.map Item.char) := by
    rw [items?_percent, items?_escape]
    rfl
  rw [holds_of_items hitems, Bool.eq_iff_iff, Item.matching_anyRun_iff,
    List.isSuffixOf_iff_suffix]
  have hliteral : ∀ rest, Item.matching (text.map Item.char) rest = true ↔ rest = text := by
    intro rest
    rw [← List.append_nil (text.map Item.char), Item.matching_chars_append_iff]
    simp [Item.matching_nil_iff]
  constructor
  · rintro ⟨skipped, rest, rfl, hrest⟩
    rw [(hliteral rest).1 hrest]
    exact List.suffix_append skipped text
  · rintro ⟨skipped, rfl⟩
    exact ⟨skipped, text, rfl, (hliteral text).2 rfl⟩

/-- The pattern of an escaped text between two runs matches what the text occurs in. -/
theorem holds_percent_escape_percent (text subject : List Char) :
    holds dialect.functions escapeCharacter subject
        ('%' :: escape dialect.likeWildcards text ++ ['%'])
      = Value.occursIn text subject := by
  have hitems : items? dialect.functions escapeCharacter .between
      ('%' :: escape dialect.likeWildcards text ++ ['%'])
        = some (.anyRun :: (text.map Item.char ++ [.anyRun])) := by
    rw [List.cons_append, items?_percent, items?_escape_append, items?_percent]
    rfl
  rw [holds_of_items hitems, Bool.eq_iff_iff, Item.matching_anyRun_iff, occursIn_iff_isInfix]
  constructor
  · rintro ⟨skipped, rest, rfl, hrest⟩
    obtain ⟨after, rfl, -⟩ := Item.matching_chars_append_iff.1 hrest
    exact ⟨skipped, after, by simp⟩
  · rintro ⟨skipped, after, rfl⟩
    exact ⟨skipped, text ++ after, by simp,
      Item.matching_chars_append_iff.2 ⟨after, rfl, Item.matching_anyRun after⟩⟩

/-- **The pattern of a test matches the subjects that pass the test.** -/
theorem holds_likePattern (table : Table) (test : TextTest) (text subject : String) :
    holds table.dialect.functions escapeCharacter subject.toList
        (table.likePattern test text).toList
      = match test with
        | .substringOf => Value.testResult test text subject
        | _ => Value.testResult test subject text := by
  cases test with
  | startsWith =>
    rw [Table.likePattern, String.toList_ofList, holds_escape_percent]
    rfl
  | endsWith =>
    rw [Table.likePattern, String.toList_ofList, holds_percent_escape]
    rfl
  | substringOf =>
    rw [Table.likePattern, String.toList_ofList, holds_percent_escape_percent]
    rfl

end Like
end Sql
end ODataQuery
