import ODataQuery.Proofs.Expression.Typing
import ODataQuery.QueryString.OrderBy

/-!
# The grammar of orderings

An ordering is read exactly if its tokens are those of one or more phrases with commas between them.
A phrase names a property, and may go on with a direction.

* `OrderBy.Phrase`: a phrase, with its tokens and the key that it stands for.
* `OrderBy.ofTokens_eq_ok_iff`: which tokens are read, and as which keys: one induction over the
  phrases, and one over the reading.
* `OrderBy.parse_eq_ok_iff_phrases`: the same of texts.

Only the place of a word tells whether it names a property or a direction, so `asc` and `desc` may
name properties as well.
-/

set_option autoImplicit false

namespace ODataQuery

theorem Direction.ofKeyword?_eq_some {word : String} {direction : Direction}
    (h : ofKeyword? word = some direction) : word = direction.keyword := by
  rw [ofKeyword?] at h
  split at h
  · rename_i hasc
    cases h
    exact hasc
  split at h
  · rename_i hdesc
    cases h
    exact hdesc
  · cases h

namespace OrderBy

variable {schema : Schema} {endPosition : Nat}

attribute [local simp] ofTokens

/-! ## Phrases -/

/-- The name of a property, and the direction that is given behind it. -/
structure Phrase where
  property : String
  direction : Option Direction
  deriving DecidableEq

namespace Phrase

/-- The tokens of the phrase. -/
def kinds (phrase : Phrase) : List TokenKind :=
  .identifier phrase.property
    :: (phrase.direction.map fun direction => .identifier direction.keyword).toList

/-- The key that the phrase stands for, which is ascending if no direction is given. -/
def key (phrase : Phrase) : SortKey :=
  ⟨phrase.property, phrase.direction.getD .asc⟩

/-- The tokens of a phrase are one or two identifiers. -/
theorem exists_of_map_kind {phrase : Phrase} {tokens : List Token}
    (h : tokens.map Token.kind = phrase.kinds) :
    ∃ position, (phrase.direction = none ∧ tokens = [⟨.identifier phrase.property, position⟩])
      ∨ ∃ direction wordPosition, phrase.direction = some direction
        ∧ tokens = [⟨.identifier phrase.property, position⟩,
          ⟨.identifier direction.keyword, wordPosition⟩] := by
  obtain ⟨⟨_, position⟩, words, rfl, rfl, hwords⟩ := List.map_eq_cons_iff.1 h
  refine ⟨position, ?_⟩
  cases hdirection : phrase.direction with
  | none =>
    rw [hdirection] at hwords
    exact .inl ⟨rfl, by rw [List.map_eq_nil_iff.1 hwords]⟩
  | some direction =>
    rw [hdirection] at hwords
    obtain ⟨⟨_, wordPosition⟩, rfl, rfl⟩ := List.map_eq_singleton_iff.1 hwords
    exact .inr ⟨direction, wordPosition, rfl, rfl⟩

end Phrase

/-- The tokens of phrases with commas between them. -/
def kindsOf (phrases : List Phrase) : List TokenKind :=
  [.comma].intercalate (phrases.map Phrase.kinds)

theorem kindsOf_singleton (phrase : Phrase) : kindsOf [phrase] = phrase.kinds := by
  simp [kindsOf]

theorem kindsOf_cons {phrases : List Phrase} (h : phrases ≠ []) (phrase : Phrase) :
    kindsOf (phrase :: phrases) = phrase.kinds ++ .comma :: kindsOf phrases := by
  rw [kindsOf, List.map_cons, List.intercalate_cons_of_ne_nil (by simpa using h),
    List.append_assoc]
  rfl

/-- Every phrase has its tokens among those of all. -/
theorem mem_kindsOf {phrases : List Phrase} {phrase : Phrase} (hphrase : phrase ∈ phrases)
    {kind : TokenKind} (hkind : kind ∈ phrase.kinds) : kind ∈ kindsOf phrases := by
  induction phrases with
  | nil => cases hphrase
  | cons first rest ih =>
    by_cases hrest : rest = []
    · subst hrest
      obtain rfl := List.mem_singleton.1 hphrase
      rwa [kindsOf_singleton]
    · rw [kindsOf_cons hrest, List.mem_append]
      rcases List.mem_cons.1 hphrase with rfl | hphrase
      · exact .inl hkind
      · exact .inr (.tail _ (ih hphrase))

/-! ## Phrases are read -/

/-- A phrase is read up to the end. -/
theorem ofTokens_phrase {phrase : Phrase} {tokens : List Token}
    (hkinds : tokens.map Token.kind = phrase.kinds)
    (hknown : (schema.property? phrase.property).isSome) :
    ofTokens schema endPosition tokens = .ok [phrase.key] := by
  obtain ⟨declared, hdeclared⟩ := Option.isSome_iff_exists.1 hknown
  have hlookup := Schema.lookup_eq_ok.2 hdeclared
  obtain ⟨position, ⟨hdirection, rfl⟩ | ⟨direction, wordPosition, hdirection, rfl⟩⟩ :=
    Phrase.exists_of_map_kind hkinds
  · simp [hlookup, Phrase.key, hdirection]
  · simp [hlookup, Phrase.key, hdirection, Direction.ofKeyword?_keyword]

/-- A phrase is read up to a comma, and then what follows it. -/
theorem ofTokens_phrase_comma {phrase : Phrase} {tokens : List Token}
    (hkinds : tokens.map Token.kind = phrase.kinds)
    (hknown : (schema.property? phrase.property).isSome) (commaPosition : Nat)
    (rest : List Token) :
    ofTokens schema endPosition (tokens ++ ⟨.comma, commaPosition⟩ :: rest)
      = (ofTokens schema endPosition rest).map (phrase.key :: ·) := by
  obtain ⟨declared, hdeclared⟩ := Option.isSome_iff_exists.1 hknown
  have hlookup := Schema.lookup_eq_ok.2 hdeclared
  obtain ⟨position, ⟨hdirection, rfl⟩ | ⟨direction, wordPosition, hdirection, rfl⟩⟩ :=
    Phrase.exists_of_map_kind hkinds
  · simp [hlookup, Phrase.key, hdirection]
  · simp [hlookup, Phrase.key, hdirection, Direction.ofKeyword?_keyword]

theorem ofTokens_of_phrases {phrases : List Phrase} (hsome : phrases ≠ [])
    (hknown : ∀ phrase ∈ phrases, (schema.property? phrase.property).isSome) {tokens : List Token}
    (hkinds : tokens.map Token.kind = kindsOf phrases) :
    ofTokens schema endPosition tokens = .ok (phrases.map Phrase.key) := by
  induction phrases generalizing tokens with
  | nil => exact absurd rfl hsome
  | cons first rest ih =>
    rw [List.forall_mem_cons] at hknown
    by_cases hrest : rest = []
    · subst hrest
      rw [kindsOf_singleton] at hkinds
      exact ofTokens_phrase hkinds hknown.1
    · rw [kindsOf_cons hrest] at hkinds
      obtain ⟨words, after, rfl, hwords, hafter⟩ := List.map_eq_append_iff.1 hkinds
      obtain ⟨⟨_, commaPosition⟩, later, rfl, rfl, hlater⟩ := List.map_eq_cons_iff.1 hafter
      rw [ofTokens_phrase_comma hwords hknown.1, ih hrest hknown.2 hlater]
      rfl

/-! ## Nothing else is read -/

theorem isSome_property_of_lookup {name : String} {declared : Property}
    (h : schema.lookup name = .ok declared) : (schema.property? name).isSome :=
  Option.isSome_iff_exists.2 ⟨declared, Schema.lookup_eq_ok.1 h⟩

/-- Tokens that are read are those of phrases, whatever their places are. -/
theorem exists_phrases_of_ofTokens {tokens : List Token} {keys : List SortKey}
    (h : ofTokens schema endPosition tokens = .ok keys) :
    ∃ phrases : List Phrase, phrases ≠ [] ∧ tokens.map Token.kind = kindsOf phrases
      ∧ (∀ phrase ∈ phrases, (schema.property? phrase.property).isSome)
      ∧ keys = phrases.map Phrase.key := by
  fun_induction ofTokens schema endPosition tokens generalizing keys with
  | case3 name position declared hlookup =>
    cases h
    exact ⟨[⟨name, none⟩], List.cons_ne_nil _ _, rfl,
      List.forall_mem_singleton.2 (isSome_property_of_lookup hlookup), rfl⟩
  | case4 name position declared hlookup commaPosition rest ih =>
    obtain ⟨later, hlater, rfl⟩ := map_eq_ok.1 h
    obtain ⟨phrases, hsome, hkinds, hknown, rfl⟩ := ih hlater
    refine ⟨⟨name, none⟩ :: phrases, List.cons_ne_nil _ _, ?_,
      List.forall_mem_cons.2 ⟨isSome_property_of_lookup hlookup, hknown⟩, rfl⟩
    rw [kindsOf_cons hsome, ← hkinds]
    rfl
  | case6 name position declared hlookup word wordPosition direction hword =>
    cases h
    obtain rfl := Direction.ofKeyword?_eq_some hword
    exact ⟨[⟨name, some direction⟩], List.cons_ne_nil _ _, rfl,
      List.forall_mem_singleton.2 (isSome_property_of_lookup hlookup), rfl⟩
  | case7 name position declared hlookup word wordPosition direction hword commaPosition rest ih =>
    obtain ⟨later, hlater, rfl⟩ := map_eq_ok.1 h
    obtain ⟨phrases, hsome, hkinds, hknown, rfl⟩ := ih hlater
    obtain rfl := Direction.ofKeyword?_eq_some hword
    refine ⟨⟨name, some direction⟩ :: phrases, List.cons_ne_nil _ _, ?_,
      List.forall_mem_cons.2 ⟨isSome_property_of_lookup hlookup, hknown⟩, rfl⟩
    rw [kindsOf_cons hsome, ← hkinds]
    rfl
  | case1 | case2 | case5 | case8 | case9 | case10 => cases h

/-! ## Which orderings are read -/

theorem ofTokens_eq_ok_iff {tokens : List Token} {keys : List SortKey} :
    ofTokens schema endPosition tokens = .ok keys
      ↔ ∃ phrases : List Phrase, phrases ≠ [] ∧ tokens.map Token.kind = kindsOf phrases
        ∧ (∀ phrase ∈ phrases, (schema.property? phrase.property).isSome)
        ∧ keys = phrases.map Phrase.key := by
  constructor
  · exact exists_phrases_of_ofTokens
  · rintro ⟨phrases, hsome, hkinds, hknown, rfl⟩
    exact ofTokens_of_phrases hsome hknown hkinds

/-- **A text is read as an ordering exactly if its tokens are those of phrases** with commas
between them, at least one, that name properties of the schema; and the keys are those that the
phrases stand for, in order. -/
theorem parse_eq_ok_iff_phrases (schema : Schema) (text : String) (keys : List SortKey) :
    parse schema text = .ok keys
      ↔ ∃ (tokens : List Token) (phrases : List Phrase), Lexer.tokenize text = .ok tokens
        ∧ phrases ≠ [] ∧ tokens.map Token.kind = [.comma].intercalate (phrases.map Phrase.kinds)
        ∧ (∀ phrase ∈ phrases, (schema.property? phrase.property).isSome)
        ∧ keys = phrases.map Phrase.key := by
  rw [parse, bind_eq_ok]
  constructor
  · rintro ⟨tokens, htokens, hread⟩
    obtain ⟨phrases, hphrases⟩ := ofTokens_eq_ok_iff.1 hread
    exact ⟨tokens, phrases, htokens, hphrases⟩
  · rintro ⟨tokens, phrases, htokens, hphrases⟩
    exact ⟨tokens, htokens, ofTokens_eq_ok_iff.2 ⟨phrases, hphrases⟩⟩

/-- The words for directions name properties, too. -/
example : (parse ⟨"Note", .ofList [("asc", { type := .integer }), ("desc", { type := .string })]⟩
    "desc asc,asc desc, desc").toOption = some [⟨"desc", .asc⟩, ⟨"asc", .desc⟩, ⟨"desc", .asc⟩] := by
  decide +kernel

end OrderBy
end ODataQuery
