import ODataQuery.Proofs.Sql.Like

/-!
# Escaped texts in patterns

The rules of `LIKE`, and that an escaped text takes part in them with its own characters only.

* `Like.Matches`: a pattern matches a subject, one rule for each way a pattern can start.
* `Like.holds_iff_matches`: reading the items of a pattern before matching them is matching by the
  rules, so a pattern that is not read to its end matches nothing.
* `Like.matches_escape_iff`: with a run behind it, before it or around it, an escaped text matches
  what starts with the text, ends with it, or has it anywhere.
-/

set_option autoImplicit false

namespace ODataQuery
namespace Sql
namespace Like

/-- A pattern matches a subject.  A percent sign takes any run of characters, an underscore any one
character, and in Transact-SQL a class in brackets one of its characters.  The character after the
escape character is taken literally, and so is every character without a meaning of its own. -/
inductive Matches (style : FunctionStyle) (escape : Char) : (pattern subject : List Char) → Prop
  | nil : Matches style escape [] []
  | escaped {c : Char} {pattern subject : List Char} :
    Matches style escape pattern subject →
    Matches style escape (escape :: c :: pattern) (c :: subject)
  | anyRun (skipped : List Char) {pattern subject : List Char} : '%' ≠ escape →
    Matches style escape pattern subject →
    Matches style escape ('%' :: pattern) (skipped ++ subject)
  | anyOne {c : Char} {pattern subject : List Char} : '_' ≠ escape →
    Matches style escape pattern subject → Matches style escape ('_' :: pattern) (c :: subject)
  | oneOf {members pattern subject : List Char} {c : Char} : '[' ≠ escape →
    style.hasClasses = true → ']' ∉ members → (classItem members).accepts c = true →
    Matches style escape pattern subject →
    Matches style escape ('[' :: (members ++ ']' :: pattern)) (c :: subject)
  | plain {c : Char} {pattern subject : List Char} : c ≠ escape → c ≠ '%' → c ≠ '_' →
    ¬(c = '[' ∧ style.hasClasses = true) → Matches style escape pattern subject →
    Matches style escape (c :: pattern) (c :: subject)

variable {style : FunctionStyle} {escape : Char}

/-! ## Matching by items -/

/-- The text of a pattern of which the reading stands before the given rest. -/
def Reading.resumed (escape : Char) : Reading → List Char → List Char
  | .between, rest => rest
  | .escaped, rest => escape :: rest
  | .inClass members, rest => '[' :: (members ++ rest)

/-- A class that is being read was opened by a bracket and is still open. -/
def Reading.IsOpen (style : FunctionStyle) (escape : Char) : Reading → Prop
  | .inClass members => '[' ≠ escape ∧ style.hasClasses = true ∧ ']' ∉ members
  | _ => True

/-- An item for one character takes the first one of the subject. -/
theorem exists_of_matching_cons {item : Item} (hitem : item ≠ .anyRun) {items : List Item}
    {subject : List Char} (h : Item.matching (item :: items) subject = true) :
    ∃ c rest, subject = c :: rest ∧ item.accepts c = true ∧ Item.matching items rest = true := by
  cases subject with
  | nil => cases item <;> first | exact absurd rfl hitem | cases h
  | cons c rest =>
    rw [Item.matching, Bool.and_eq_true] at h
    · exact ⟨c, rest, rfl, h.1, h.2⟩
    · exact hitem

theorem matching_cons_of_accepts {item : Item} (hitem : item ≠ .anyRun) {items : List Item}
    {c : Char} {rest : List Char} (hc : item.accepts c = true)
    (h : Item.matching items rest = true) : Item.matching (item :: items) (c :: rest) = true := by
  rw [Item.matching, hc, h]
  · rfl
  · exact hitem

theorem classItem_ne_anyRun (members : List Char) : classItem members ≠ .anyRun := by
  rw [classItem.eq_def]
  split <;> exact Item.noConfusion

/-- What the items of a pattern match, the pattern matches. -/
theorem matches_of_matching {reading : Reading} {rest : List Char} {items : List Item}
    (hitems : items? style escape reading rest = some items) (hopen : reading.IsOpen style escape)
    {subject : List Char} (h : Item.matching items subject = true) :
    Matches style escape (reading.resumed escape rest) subject := by
  fun_induction items? style escape reading rest generalizing items subject with
  | case1 =>
    cases hitems
    rw [Item.matching_nil_iff.1 h]
    exact .nil
  | case2 => cases hitems
  | case3 => cases hitems
  | case4 c rest ih =>
    -- the character after the escape character
    obtain ⟨items, hrest, rfl⟩ := Option.map_eq_some_iff.1 hitems
    obtain ⟨c', subject, rfl, hc, hsubject⟩ := exists_of_matching_cons (by simp) h
    obtain rfl : c' = c := of_decide_eq_true hc
    exact .escaped (ih hrest trivial hsubject)
  | case5 members rest ih =>
    -- the end of a class
    obtain ⟨items, hrest, rfl⟩ := Option.map_eq_some_iff.1 hitems
    obtain ⟨c, subject, rfl, hc, hsubject⟩ :=
      exists_of_matching_cons (classItem_ne_anyRun members) h
    exact .oneOf hopen.1 hopen.2.1 hopen.2.2 hc (ih hrest trivial hsubject)
  | case6 members c rest hc ih =>
    have hmembers : ']' ∉ members ++ [c] := by
      simpa [Ne.symm hc] using hopen.2.2
    have hmatches := ih hitems ⟨hopen.1, hopen.2.1, hmembers⟩ h
    rwa [Reading.resumed, List.append_assoc] at hmatches
  | case7 rest ih => exact ih hitems trivial h
  | case8 rest hescape ih =>
    obtain ⟨items, hrest, rfl⟩ := Option.map_eq_some_iff.1 hitems
    obtain ⟨skipped, subject, rfl, hsubject⟩ := Item.matching_anyRun_iff.1 h
    exact .anyRun skipped hescape (ih hrest trivial hsubject)
  | case9 rest hescape _ ih =>
    obtain ⟨items, hrest, rfl⟩ := Option.map_eq_some_iff.1 hitems
    obtain ⟨c, subject, rfl, -, hsubject⟩ := exists_of_matching_cons (by simp) h
    exact .anyOne hescape (ih hrest trivial hsubject)
  | case10 c rest hescape _ _ hclass ih =>
    obtain ⟨rfl, hclasses⟩ := hclass
    exact ih hitems ⟨hescape, hclasses, List.not_mem_nil⟩ h
  | case11 c rest hescape hpercent hunderscore hbracket ih =>
    obtain ⟨items, hrest, rfl⟩ := Option.map_eq_some_iff.1 hitems
    obtain ⟨c', subject, rfl, hc, hsubject⟩ := exists_of_matching_cons (by simp) h
    obtain rfl : c' = c := of_decide_eq_true hc
    exact .plain hescape hpercent hunderscore hbracket (ih hrest trivial hsubject)

/-- A class is read up to its closing bracket. -/
theorem items?_inClass_append (members : List Char) {more : List Char} (hmore : ']' ∉ more)
    (rest : List Char) :
    items? style escape (.inClass members) (more ++ ']' :: rest)
      = (items? style escape .between rest).map (classItem (members ++ more) :: ·) := by
  induction more generalizing members with
  | nil => rw [List.nil_append, items?, if_pos rfl, List.append_nil]
  | cons c more ih =>
    rw [List.mem_cons, not_or] at hmore
    rw [List.cons_append, items?, if_neg (Ne.symm hmore.1), ih _ hmore.2, List.append_assoc]
    rfl

/-- A pattern that matches a subject is read to its end, and its items match the subject. -/
theorem exists_items_of_matches {pattern subject : List Char}
    (h : Matches style escape pattern subject) :
    ∃ items, items? style escape .between pattern = some items ∧
      Item.matching items subject = true := by
  induction h with
  | nil => exact ⟨[], by rw [items?], rfl⟩
  | @escaped c _ _ _ ih =>
    obtain ⟨items, hitems, hmatching⟩ := ih
    refine ⟨.char c :: items, ?_, matching_cons_of_accepts (by simp) (decide_eq_true rfl) hmatching⟩
    rw [items?, if_pos rfl, items?, hitems, Option.map_some]
  | anyRun skipped hescape _ ih =>
    obtain ⟨items, hitems, hmatching⟩ := ih
    refine ⟨.anyRun :: items, ?_, Item.matching_anyRun_iff.2 ⟨skipped, _, rfl, hmatching⟩⟩
    rw [items?, if_neg hescape, if_pos rfl, hitems, Option.map_some]
  | anyOne hescape _ ih =>
    obtain ⟨items, hitems, hmatching⟩ := ih
    refine ⟨.anyOne :: items, ?_, matching_cons_of_accepts (by simp) rfl hmatching⟩
    rw [items?, if_neg hescape, if_neg (by decide), if_pos rfl, hitems, Option.map_some]
  | @oneOf members _ _ _ hescape hclasses hmembers hc _ ih =>
    obtain ⟨items, hitems, hmatching⟩ := ih
    refine ⟨classItem members :: items, ?_,
      matching_cons_of_accepts (classItem_ne_anyRun members) hc hmatching⟩
    rw [items?, if_neg hescape, if_neg (by decide), if_neg (by decide), if_pos ⟨rfl, hclasses⟩,
      items?_inClass_append [] hmembers, hitems, Option.map_some, List.nil_append]
  | @plain c _ _ hescape hpercent hunderscore hbracket _ ih =>
    obtain ⟨items, hitems, hmatching⟩ := ih
    refine ⟨.char c :: items, ?_, matching_cons_of_accepts (by simp) (decide_eq_true rfl) hmatching⟩
    rw [items?, if_neg hescape, if_neg hpercent, if_neg hunderscore, if_neg hbracket, hitems,
      Option.map_some]

/-- **Reading the items of a pattern and matching them is matching by the rules.** -/
theorem holds_iff_matches {subject pattern : List Char} :
    holds style escape subject pattern = true ↔ Matches style escape pattern subject := by
  rw [holds]
  constructor
  · intro h
    split at h
    · rename_i items hitems
      exact matches_of_matching hitems trivial h
    · cases h
  · intro h
    obtain ⟨items, hitems, hmatching⟩ := exists_items_of_matches h
    rw [hitems]
    exact hmatching

/-! ## Escaped texts -/

/-- **An escaped text stands for itself.**  With a run behind it the pattern matches what starts
with the text, with one before it what ends with it, and with both what has it anywhere.  This holds
of every text, also one that has wildcards or the escape character in it or at its end. -/
theorem matches_escape_iff (dialect : Dialect) (text subject : List Char) :
    (Matches dialect.functions escapeCharacter
        (Like.escape dialect.likeWildcards text ++ ['%']) subject ↔ text <+: subject) ∧
    (Matches dialect.functions escapeCharacter
        ('%' :: Like.escape dialect.likeWildcards text) subject ↔ text <:+ subject) ∧
    (Matches dialect.functions escapeCharacter
        ('%' :: Like.escape dialect.likeWildcards text ++ ['%']) subject ↔ text <:+: subject) := by
  refine ⟨?_, ?_, ?_⟩
  · rw [← holds_iff_matches, holds_escape_percent, List.isPrefixOf_iff_prefix]
  · rw [← holds_iff_matches, holds_percent_escape, List.isSuffixOf_iff_suffix]
  · rw [← holds_iff_matches, holds_percent_escape_percent, occursIn_iff_isInfix]

end Like
end Sql
end ODataQuery
