import ODataQuery.Proofs.Number.Digits
import ODataQuery.Proofs.Sql.Placeholders
import ODataQuery.Proofs.Sql.UniqueReading

/-!
# The characters of statements

The text of a statement is made of keywords, operators, numbers and placeholders, of which every
character is printable, and of what the configuration gives: the text of the table and the names of
the columns.  No literal of a filter is among them, so a query cannot bring any other character into
a statement.

* `Text.isPrintable`: the printable characters of the basic alphabet.
* `Fragment.Within`: text and identifiers of a fragment have allowed characters only;
  `Fragment.allowed_of_mem_text`: so its text has, if printable characters are allowed.
* `Table.closed_within`: the constructs write printable characters around their operands.
* `Select.within_fragment`: a select has the characters of its parts.
* `Table.allowed_of_mem_statement`: so the statements of a plan have no characters but printable
  ones, those of the text of the table and those of its columns.
-/

set_option autoImplicit false

namespace ODataQuery

namespace Text

/-- The printable characters of the basic alphabet. -/
def isPrintable (c : Char) : Bool :=
  32 ≤ c.toNat && c.toNat < 127

theorem isPrintable_of_isAsciiDigit {c : Char} (h : isAsciiDigit c = true) :
    isPrintable c = true := by
  rw [isAsciiDigit, Bool.and_eq_true, decide_eq_true_eq, decide_eq_true_eq] at h
  have hlow : 48 ≤ c.toNat := h.1
  have hhigh : c.toNat ≤ 57 := h.2
  simp only [isPrintable, Bool.and_eq_true, decide_eq_true_eq]
  omega

theorem Quoted.mem_double_iff {close c : Char} {text : List Char} :
    c ∈ double close text ↔ c ∈ text := by
  rw [double, List.mem_flatMap]
  constructor
  · rintro ⟨source, hmem, hc⟩
    split at hc
    · rename_i hclose
      rw [hclose] at hmem
      simp_all
    · rwa [List.mem_singleton.1 hc]
  · intro hmem
    refine ⟨c, hmem, ?_⟩
    split <;> simp_all

theorem mem_of_mem_trim {text : List Char} {c : Char} (h : c ∈ trim text) : c ∈ text := by
  rw [trim, trimEnd, List.mem_reverse] at h
  exact (List.dropWhile_sublist _).subset
    (List.mem_reverse.1 ((List.dropWhile_sublist _).subset h))

end Text

namespace Sql

open Text
open Fragment (ofText)

/-- All printable characters are allowed. -/
def AllowsPrintable (allowed : Char → Prop) : Prop :=
  ∀ c, isPrintable c = true → allowed c

variable {allowed : Char → Prop}

theorem AllowsPrintable.of_all (hallowed : AllowsPrintable allowed) {text : List Char}
    (h : text.all isPrintable = true) : ∀ c ∈ text, allowed c :=
  fun c hc => hallowed c (List.all_eq_true.1 h c hc)

theorem AllowsPrintable.number (hallowed : AllowsPrintable allowed) (n : Nat) :
    ∀ c ∈ Nat.toDigits 10 n, allowed c :=
  fun c hc => hallowed c (isPrintable_of_isAsciiDigit (isAsciiDigit_of_mem_toDigits hc))

/-! ## Characters of fragments -/

/-- A character, or those of an identifier, are allowed. -/
def Symbol.Within (allowed : Char → Prop) : Symbol → Prop
  | .char c => allowed c
  | .identifier name => ∀ c ∈ name.toList, allowed c
  | .parameter _ => True

theorem Symbol.within_plainSymbols {text : String} :
    (∀ symbol ∈ plainSymbols text, symbol.Within allowed) ↔ ∀ c ∈ text.toList, allowed c :=
  List.forall_mem_map

namespace Fragment

/-- Text and identifiers have allowed characters only. -/
def Within (allowed : Char → Prop) (fragment : Fragment) : Prop :=
  ∀ symbol ∈ fragment.symbols, symbol.Within allowed

@[simp] theorem within_nil : Within allowed [] := by
  simp [Within, symbols]

@[simp] theorem within_append {first second : Fragment} :
    Within allowed (first ++ second) ↔ Within allowed first ∧ Within allowed second := by
  rw [Within, symbols_append, List.forall_mem_append]
  rfl

@[simp] theorem within_verbatim_cons {text : String} {rest : Fragment} :
    Within allowed (.verbatim text :: rest)
      ↔ (∀ c ∈ text.toList, allowed c) ∧ Within allowed rest := by
  rw [Within, symbols, List.forall_mem_append, Symbol.within_plainSymbols]
  rfl

@[simp] theorem within_identifier_cons {name : String} {rest : Fragment} :
    Within allowed (.identifier name :: rest)
      ↔ (∀ c ∈ name.toList, allowed c) ∧ Within allowed rest := by
  rw [Within, symbols, List.forall_mem_cons]
  rfl

@[simp] theorem within_parameter_cons {value : Value} {rest : Fragment} :
    Within allowed (.parameter value :: rest) ↔ Within allowed rest := by
  rw [Within, symbols, List.forall_mem_cons]
  exact and_iff_right trivial

@[simp] theorem within_ofText {text : String} :
    Within allowed (ofText text) ↔ ∀ c ∈ text.toList, allowed c := by
  simp [ofText]

end Fragment

/-- The marks of an identifier are printable. -/
theorem allowed_of_mem_quoteIdentifier (hallowed : AllowsPrintable allowed)
    (quoting : IdentifierQuoting) {name : String} (hname : ∀ c ∈ name.toList, allowed c) :
    ∀ c ∈ Fragment.quoteIdentifier quoting name, allowed c := by
  intro c hc
  rw [Fragment.quoteIdentifier, Quoted.encode] at hc
  rcases List.mem_append.1 hc with hc | hc
  · rcases List.mem_cons.1 hc with rfl | hc
    · cases quoting <;> exact hallowed _ (by decide)
    · exact hname c (Quoted.mem_double_iff.1 hc)
  · rw [List.mem_singleton.1 hc]
    cases quoting <;> exact hallowed _ (by decide)

/-- Placeholders are printable. -/
theorem allowed_of_mem_placeholder (hallowed : AllowsPrintable allowed) (style : PlaceholderStyle)
    (number : Nat) : ∀ c ∈ (style.write number).toList, allowed c := by
  have hdigits := hallowed.number number
  cases style with
  | atNamed | dollarNumbered =>
    simp only [PlaceholderStyle.write, toString, String.toList_append, List.forall_mem_append,
      Nat.repr_eq_ofList_toDigits, String.toList_ofList]
    exact ⟨hallowed.of_all (by decide), hdigits⟩
  | questionMark =>
    have hmark : "?".toList.all isPrintable = true := by decide
    exact hallowed.of_all hmark

theorem Symbol.allowed_of_mem_spell (hallowed : AllowsPrintable allowed) {dialect : Dialect}
    {number : Nat} {symbols : List Symbol} (h : ∀ symbol ∈ symbols, symbol.Within allowed) :
    ∀ c ∈ spell dialect number symbols, allowed c := by
  induction symbols generalizing number with
  | nil => exact nofun
  | cons symbol rest ih =>
    obtain ⟨hsymbol, hrest⟩ := List.forall_mem_cons.1 h
    cases symbol with
    | char c =>
      rw [spell, List.forall_mem_cons]
      exact ⟨hsymbol, ih hrest⟩
    | identifier name =>
      rw [spell, List.forall_mem_append]
      exact ⟨allowed_of_mem_quoteIdentifier hallowed _ hsymbol, ih hrest⟩
    | parameter value =>
      rw [spell, List.forall_mem_append]
      exact ⟨allowed_of_mem_placeholder hallowed _ _, ih hrest⟩

/-- **A text has the characters of its fragment**, and marks and placeholders, which are
printable. -/
theorem Fragment.allowed_of_mem_text (hallowed : AllowsPrintable allowed) (dialect : Dialect)
    {fragment : Fragment} (h : fragment.Within allowed) :
    ∀ c ∈ (fragment.toStatement dialect).text.toList, allowed c := by
  show ∀ c ∈ (String.ofList _).toList, _
  rw [String.toList_ofList, charsFrom_eq_spell]
  exact Symbol.allowed_of_mem_spell hallowed h

/-! ## Characters of terms -/

namespace Construct

/-- Constructs write printable characters. -/
theorem isPrintable_texts (style : FunctionStyle) (construct : Construct) :
    ((construct.opening style).toList ++ (construct.after style).toList).all isPrintable
      = true := by
  have hall : ∀ c ∈ all,
      ((c.opening style).toList ++ (c.after style).toList).all isPrintable = true := by
    cases style <;> decide +kernel
  exact hall construct construct.mem_all

end Construct

/-- A construct of one operand has the characters of its operand. -/
theorem Unary.within_fragment (hallowed : AllowsPrintable allowed) (style : FunctionStyle)
    (construct : Unary) {operand : Term} (hoperand : (operand.fragment style).Within allowed) :
    ((construct.term operand).fragment style).Within allowed := by
  have htexts := hallowed.of_all ((Construct.unary construct).isPrintable_texts style)
  rw [List.forall_mem_append] at htexts
  have hsymbols := construct.symbols_term_append style operand []
  rw [List.append_nil] at hsymbols
  show ∀ symbol ∈ (construct.term operand).symbols style, _
  rw [hsymbols]
  simp only [List.forall_mem_append, Symbol.within_plainSymbols]
  exact ⟨htexts.1, hoperand, htexts.2, List.forall_mem_nil _⟩

/-- A construct of two operands has the characters of both. -/
theorem Binary.within_fragment (hallowed : AllowsPrintable allowed) (style : FunctionStyle)
    (construct : Binary) {left right : Term} (hleft : (left.fragment style).Within allowed)
    (hright : (right.fragment style).Within allowed) :
    ((construct.term left right).fragment style).Within allowed := by
  have htexts := hallowed.of_all ((Construct.binary construct).isPrintable_texts style)
  rw [List.forall_mem_append] at htexts
  have hclosing : construct.closing.toList.all isPrintable = true := by
    cases construct with
    | like => decide
    | _ => exact (by decide : ")".toList.all isPrintable = true)
  have hsymbols := construct.symbols_term_append style left right []
  rw [List.append_nil] at hsymbols
  show ∀ symbol ∈ (construct.term left right).symbols style, _
  rw [hsymbols]
  simp only [List.forall_mem_append, Symbol.within_plainSymbols]
  exact ⟨htexts.1, hleft, htexts.2, hright, hallowed.of_all hclosing, List.forall_mem_nil _⟩

/-- A column has the characters of its names. -/
theorem within_column (hallowed : AllowsPrintable allowed) (style : FunctionStyle)
    {aliasName name : String} (halias : ∀ c ∈ aliasName.toList, allowed c)
    (hname : ∀ c ∈ name.toList, allowed c) :
    ((Term.column (.byAlias aliasName) name).fragment style).Within allowed := by
  rw [Term.fragment]
  simp only [TableRef.fragment, List.singleton_append, Fragment.within_identifier_cons,
    Fragment.within_verbatim_cons, Fragment.within_nil, and_true]
  exact ⟨halias, hallowed.of_all (by decide), hname⟩

/-- The columns of the table have allowed characters only. -/
def Table.AllowsColumns (table : Table) (allowed : Char → Prop) : Prop :=
  ∀ name column, table.columns.get? name = some column → ∀ c ∈ column.toList, allowed c

namespace Table

variable {table : Table}

/-- **The constructs write printable characters** around their operands, so terms have no others
than the columns of the table. -/
theorem closed_within (hallowed : AllowsPrintable allowed)
    (hcolumns : table.AllowsColumns allowed) (style : FunctionStyle) :
    table.Closed fun term => (term.fragment style).Within allowed where
  parameter value := by
    rw [Atom.term, Term.fragment]
    simp
  column h := within_column hallowed style (hallowed.of_all (by decide)) (hcolumns _ _ h)
  bool b := by
    rw [Atom.term, Term.fragment, Fragment.within_ofText]
    cases b <;> exact hallowed.of_all (by decide)
  unary construct := construct.within_fragment hallowed style
  binary construct := construct.within_fragment hallowed style

theorem within_keysFragment_nil (style : FunctionStyle) :
    (keysFragment style []).Within allowed := by
  rw [keysFragment]
  exact Fragment.within_nil

/-- Keys name columns of the table. -/
theorem within_keysFragment (hallowed : AllowsPrintable allowed)
    (hcolumns : table.AllowsColumns allowed) (style : FunctionStyle) {keys : List SortKey}
    {terms : List (Term × Direction)} (hkeys : table.keys keys = .ok terms) :
    (keysFragment style terms).Within allowed := by
  induction keys generalizing terms with
  | nil =>
    rw [Table.keys] at hkeys
    cases hkeys
    exact within_keysFragment_nil style
  | cons key rest ih =>
    obtain ⟨column, restTerms, hcolumn, hrest, rfl⟩ := exists_of_keys_cons_eq_ok hkeys
    have htarget := (table.closed_within hallowed hcolumns style).column hcolumn
    have hdirection : ∀ c ∈ (directionText key.direction).toList, allowed c := by
      cases key.direction <;> exact hallowed.of_all (by decide)
    have hrest := ih hrest
    cases restTerms with
    | nil =>
      rw [keysFragment, Fragment.within_append, Fragment.within_ofText]
      exact ⟨htarget, hdirection⟩
    | cons second others =>
      rw [keysFragment, Fragment.within_append, Fragment.within_verbatim_cons,
        Fragment.within_verbatim_cons]
      · exact ⟨htarget, hdirection, hallowed.of_all (by decide), hrest⟩
      · exact List.cons_ne_nil _ _

end Table

/-! ## Characters of selects -/

/-- What the rows of a select come from has allowed characters only. -/
def Relation.Within (allowed : Char → Prop) (dialect : Dialect) : Option (Relation Select) → Prop
  | none => True
  | some (.table source aliasName) =>
    source.fragment.Within allowed ∧ ∀ c ∈ aliasName.toList, allowed c
  | some (.select inner aliasName) =>
    (inner.fragment dialect).Within allowed ∧ ∀ c ∈ aliasName.toList, allowed c
  | some (.raw sql aliasName) => (∀ c ∈ sql.toList, allowed c) ∧ ∀ c ∈ aliasName.toList, allowed c

/-- Pages are asked for with printable characters. -/
theorem allowed_of_mem_pageText (hallowed : AllowsPrintable allowed) (style : PagingStyle)
    (limit offset : Option UInt64) : ∀ c ∈ (pageText style limit offset).toList, allowed c := by
  have hnumber (n : UInt64) : ∀ c ∈ (toString n.toNat).toList, allowed c := by
    simpa [toString, Nat.repr_eq_ofList_toDigits] using hallowed.number n.toNat
  have hword (word : String) (h : word.toList.all isPrintable = true) :
      ∀ c ∈ (toString word).toList, allowed c := hallowed.of_all h
  have hlimit := hword " LIMIT " (by decide)
  have hunlimited := hword " LIMIT -1" (by decide)
  have hoffset := hword " OFFSET " (by decide)
  have hrows := hword " ROWS" (by decide)
  have hfetch := hword " FETCH NEXT " (by decide)
  have honly := hword " ROWS ONLY" (by decide)
  have hempty := hword "" (by decide)
  cases style with
  | limitOffset offsetRequiresLimit =>
    simp only [pageText, String.toList_append, List.forall_mem_append]
    constructor
    · cases limit with
      | none =>
        simp only
        split
        · exact hunlimited
        · exact hempty
      | some limit =>
        rw [String.toList_append, List.forall_mem_append]
        exact ⟨hlimit, hnumber limit⟩
    · cases offset with
      | none => exact hempty
      | some offset =>
        rw [String.toList_append, List.forall_mem_append]
        exact ⟨hoffset, hnumber offset⟩
  | offsetFetch | rowNumber =>
    simp only [pageText]
    split
    · exact hempty
    · simp only [String.toList_append, List.forall_mem_append]
      refine ⟨⟨⟨hoffset, hnumber _⟩, hrows⟩, ?_⟩
      cases limit with
      | none => exact hempty
      | some limit =>
        simp only [String.toList_append, List.forall_mem_append]
        exact ⟨⟨hfetch, hnumber limit⟩, honly⟩

/-- **A select has the characters of its parts.** -/
theorem Select.within_fragment (hallowed : AllowsPrintable allowed) (dialect : Dialect)
    {select : Select} (hselection : (select.selection.fragment dialect.functions).Within allowed)
    (hrelation : Relation.Within allowed dialect select.relation)
    (hcondition : (select.condition.fragment dialect.functions).Within allowed)
    (horderBy : (keysFragment dialect.functions select.orderBy).Within allowed) :
    (select.fragment dialect).Within allowed := by
  have hword (word : String) (h : word.toList.all isPrintable = true) :
      ∀ c ∈ word.toList, allowed c := hallowed.of_all h
  have hcondition : (conditionFragment dialect.functions select.condition).Within allowed := by
    unfold conditionFragment
    split
    · exact Fragment.within_nil
    · exact Fragment.within_verbatim_cons.2 ⟨hword " WHERE " (by decide), hcondition⟩
  have horderBy : (orderByFragment dialect.functions select.orderBy).Within allowed := by
    unfold orderByFragment
    split
    · exact Fragment.within_nil
    · exact Fragment.within_verbatim_cons.2 ⟨hword " ORDER BY " (by decide), horderBy⟩
  have hpage := allowed_of_mem_pageText hallowed dialect.paging select.limit select.offset
  have hfrom := hword " FROM " (by decide)
  have hinner := hword " FROM (" (by decide)
  have has := hword " AS " (by decide)
  have hbehind := hword ") AS " (by decide)
  obtain ⟨selection, relation, condition, orderBy, limit, offset⟩ := select
  rcases relation with _ | ⟨source, aliasName⟩ | ⟨inner, aliasName⟩ | ⟨sql, aliasName⟩ <;>
    simp only [Select.fragment, List.cons_append, List.append_nil, Fragment.within_verbatim_cons,
      Fragment.within_append, Fragment.within_identifier_cons, Fragment.within_nil,
      Fragment.within_ofText, and_true]
  · exact ⟨hword "SELECT " (by decide), ⟨⟨hselection, hcondition⟩, horderBy⟩, hpage⟩
  · exact ⟨hword "SELECT " (by decide), ⟨⟨⟨hselection, hfrom, hrelation.1, has, hrelation.2⟩,
      hcondition⟩, horderBy⟩, hpage⟩
  · exact ⟨hword "SELECT " (by decide), ⟨⟨⟨hselection, hinner, hrelation.1, hbehind, hrelation.2⟩,
      hcondition⟩, horderBy⟩, hpage⟩
  · exact ⟨hword "SELECT " (by decide), ⟨⟨⟨hselection, hinner, hrelation.1, hbehind, hrelation.2⟩,
      hcondition⟩, horderBy⟩, hpage⟩

/-! ## Characters of plans -/

namespace Table

variable {table : Table} {baseSql : String} {query : Query} {condition : Term}
  {keys : List (Term × Direction)} {dialect : Dialect}

/-- The rows of a table have the characters of its text. -/
theorem within_baseRelation (hbase : ∀ c ∈ baseSql.toList, allowed c) {aliasName : String}
    (halias : ∀ c ∈ aliasName.toList, allowed c) :
    Relation.Within allowed dialect (some (baseRelation baseSql aliasName)) := by
  have htrimmed : ∀ c ∈ (String.ofList (trim baseSql.toList)).toList, allowed c := by
    rw [String.toList_ofList]
    exact fun c hc => hbase c (mem_of_mem_trim hc)
  rw [baseRelation]
  split
  · exact ⟨htrimmed, halias⟩
  · refine ⟨?_, halias⟩
    rw [TableRef.fragment, Fragment.within_ofText]
    exact htrimmed

theorem within_starOf (hallowed : AllowsPrintable allowed) (style : FunctionStyle)
    {aliasName : String} (halias : ∀ c ∈ aliasName.toList, allowed c) :
    ((Selection.starOf (.byAlias aliasName)).fragment style).Within allowed := by
  simp only [Selection.fragment, TableRef.fragment, List.cons_append, List.nil_append,
    Fragment.within_identifier_cons, Fragment.within_ofText]
  exact ⟨halias, hallowed.of_all (by decide)⟩

/-- So have the rows that meet a condition, with the characters of the condition and the keys. -/
theorem within_rowsWhere (hallowed : AllowsPrintable allowed)
    (hbase : ∀ c ∈ baseSql.toList, allowed c)
    (hcondition : (condition.fragment dialect.functions).Within allowed)
    (hkeys : (keysFragment dialect.functions keys).Within allowed) (limit offset : Option UInt64) :
    (Select.fragment dialect { rowsWhere baseSql condition with
      orderBy := keys, limit := limit, offset := offset }).Within allowed := by
  have halias : ∀ c ∈ tableAlias.toList, allowed c := hallowed.of_all (by decide)
  exact Select.within_fragment hallowed dialect (within_starOf hallowed _ halias)
    (within_baseRelation hbase halias) hcondition hkeys

/-- The rows can be given their numbers. -/
theorem within_numbered (hallowed : AllowsPrintable allowed)
    (hbase : ∀ c ∈ baseSql.toList, allowed c)
    (hcondition : (condition.fragment dialect.functions).Within allowed)
    (hkeys : (keysFragment dialect.functions keys).Within allowed) :
    (Select.fragment dialect { rowsWhere baseSql condition with
      selection := .both (rowsWhere baseSql condition).selection
        (.columns [(rowNumberName, .rowNumber keys)]) }).Within allowed := by
  have halias : ∀ c ∈ tableAlias.toList, allowed c := hallowed.of_all (by decide)
  refine Select.within_fragment hallowed dialect ?_ (within_baseRelation hbase halias) hcondition
    (within_keysFragment_nil _)
  simp only [Selection.fragment, Fragment.commaSeparated, List.map_cons, List.map_nil,
    Term.fragment, List.cons_append, Fragment.within_append, Fragment.within_verbatim_cons,
    Fragment.within_identifier_cons, Fragment.within_ofText, Fragment.within_nil, and_true]
  exact ⟨within_starOf hallowed _ halias, hallowed.of_all (by decide), hallowed.of_all (by decide),
    ⟨hkeys, hallowed.of_all (by decide)⟩, hallowed.of_all (by decide), hallowed.of_all (by decide)⟩

/-- The number of the row. -/
theorem within_number (hallowed : AllowsPrintable allowed) (style : FunctionStyle) :
    ((Term.column (.byAlias numberedAlias) rowNumberName).fragment style).Within allowed :=
  within_column hallowed style (hallowed.of_all (by decide)) (hallowed.of_all (by decide))

/-- A bound of the number of the row. -/
theorem within_bound (hallowed : AllowsPrintable allowed) (style : FunctionStyle)
    (comparison : Comparison) (n : Nat) :
    ((Term.binary (.column (.byAlias numberedAlias) rowNumberName) (.comparison comparison)
      (countTerm n)).fragment style).Within allowed := by
  have hbound : ((countTerm n).fragment style).Within allowed := by
    rw [countTerm, Term.fragment, Fragment.within_ofText, toList_toString, List.forall_mem_append]
    refine ⟨?_, hallowed.number _⟩
    split
    · exact hallowed.of_all (by decide)
    · exact List.forall_mem_nil _
  exact Binary.within_fragment hallowed style (.comparison comparison)
    (within_number hallowed style) hbound

/-- A page by numbers adds the alias and the bounds of the page. -/
theorem within_numberedPage (hallowed : AllowsPrintable allowed)
    (hbase : ∀ c ∈ baseSql.toList, allowed c)
    (hcondition : (condition.fragment dialect.functions).Within allowed)
    (hkeys : (keysFragment dialect.functions keys).Within allowed) (top offset : Option UInt64) :
    ((numberedPage (rowsWhere baseSql condition) keys top offset).fragment dialect).Within
      allowed := by
  have halias : ∀ c ∈ numberedAlias.toList, allowed c := hallowed.of_all (by decide)
  refine Select.within_fragment hallowed dialect (within_starOf hallowed _ halias)
    ⟨within_numbered hallowed hbase hcondition hkeys, halias⟩ ?_ ?_
  · cases top with
    | none => exact within_bound hallowed _ .gt _
    | some top =>
      exact Binary.within_fragment hallowed _ (.connective .and)
        (within_bound hallowed _ .gt _) (within_bound hallowed _ .le _)
  · simp only [numberedPage, keysFragment]
    rw [Fragment.within_append, Fragment.within_ofText]
    exact ⟨within_number hallowed _, hallowed.of_all (by decide)⟩

/-- **A page has the characters of the text of the table, of its condition and of its keys.** -/
theorem within_sortedPage (hallowed : AllowsPrintable allowed)
    (hbase : ∀ c ∈ baseSql.toList, allowed c)
    (hcondition : (condition.fragment dialect.functions).Within allowed)
    (hkeys : (keysFragment dialect.functions keys).Within allowed) :
    ((table.sortedPage (rowsWhere baseSql condition) query keys).fragment dialect).Within
      allowed := by
  rcases table.sortedPage_cases (rowsWhere baseSql condition) query keys with
    ⟨-, heq⟩ | ⟨-, heq⟩ | ⟨-, heq | heq⟩ <;> rw [heq]
  · exact within_rowsWhere hallowed hbase hcondition hkeys none none
  · have hnone : ((Term.bool false).fragment dialect.functions).Within allowed := by
      rw [Term.fragment, Fragment.within_ofText]
      exact hallowed.of_all (by decide)
    exact within_rowsWhere hallowed hbase hnone hkeys none none
  · exact within_rowsWhere hallowed hbase hcondition hkeys _ _
  · exact within_numberedPage hallowed hbase hcondition hkeys _ _

/-- The number of the rows of a select adds an alias. -/
theorem within_counting (hallowed : AllowsPrintable allowed) {select : Select}
    (hselect : (select.fragment dialect).Within allowed) {aliasName : String}
    (halias : ∀ c ∈ aliasName.toList, allowed c) :
    ((select.counting aliasName).fragment dialect).Within allowed := by
  refine Select.within_fragment hallowed dialect ?_ ⟨hselect, halias⟩ ?_
    (within_keysFragment_nil dialect.functions)
  · simp only [Select.counting, Selection.fragment, Fragment.commaSeparated, List.map_cons,
      List.map_nil, Term.fragment, Fragment.within_append, Fragment.within_ofText,
      Fragment.within_verbatim_cons, Fragment.within_identifier_cons, Fragment.within_nil, and_true]
    exact ⟨hallowed.of_all (by decide), hallowed.of_all (by decide), hallowed.of_all (by decide)⟩
  · rw [Select.counting, Term.fragment, Fragment.within_ofText]
    exact hallowed.of_all (by decide)

/-- **The statements of a plan have no characters but printable ones**, those of the text of the
table and those of its columns. -/
theorem allowed_of_mem_statement (hallowed : AllowsPrintable allowed)
    (hbase : ∀ c ∈ baseSql.toList, allowed c) (hcolumns : table.AllowsColumns allowed)
    (hfilter : ∀ filter ∈ query.filter, ∃ schema, filter.checkPredicate schema = .ok ())
    {plan : Plan} (hplan : table.plan baseSql query = .ok plan) (shape : ExpectedShape) :
    ∀ c ∈ (plan.statement shape).text.toList, allowed c := by
  obtain ⟨-, condition, keys, hcondition, hkeys, rfl⟩ := plan_eq_ok.1 hplan
  have hcondition : (condition.fragment table.dialect.functions).Within allowed :=
    (table.closed_within hallowed hcolumns _).of_filterCondition hcondition hfilter
  have hkeys : (keysFragment table.dialect.functions keys).Within allowed :=
    within_keysFragment hallowed hcolumns _ (keys_withFallback hkeys)
  cases shape with
  | rows =>
    exact Fragment.allowed_of_mem_text hallowed _
      (within_sortedPage hallowed hbase hcondition hkeys)
  | count =>
    have hrows := within_rowsWhere hallowed hbase hcondition
      (within_keysFragment_nil table.dialect.functions) none none
    exact Fragment.allowed_of_mem_text hallowed _
      (within_counting hallowed hrows (hallowed.of_all (by decide)))

end Table

end Sql
end ODataQuery
