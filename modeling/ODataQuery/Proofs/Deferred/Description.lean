import ODataQuery.Proofs.Deferred.Preparation
import ODataQuery.Proofs.Sql.DescribedValues
import ODataQuery.Proofs.Sql.Placeholders

/-!
# The comment of a description

A description is meant to be a comment followed by a statement.  The comment shows the values of the
parameters as they are, and strings come from whoever asks the query: a string that holds the end of
a comment ends the comment early, and the rest of the string stands where SQL is read.

* `readComment?`: a comment at the start of a text, read as databases read it, up to the first mark
  that ends comments.
* `untilCommentEnd_eq_some_iff`: that mark is the first one.
* `DeferredQuery.toList_describe`: the parts of a description.
* `DeferredQuery.infix_note_iff`: the comment holds the mark exactly if a parameter does.
* `DeferredQuery.readComment?_describe_iff`: so a description is read as its comment and its
  statement exactly if no parameter holds the mark, and otherwise what is read as SQL begins inside
  the first parameter that does.
-/

set_option autoImplicit false

namespace ODataQuery

open Text

/-! ## Reading comments -/

/-- What stands before the first end of a comment, and what follows the end. -/
def untilCommentEnd : List Char → Option (List Char × List Char)
  | [] => none
  | '*' :: '/' :: rest => some ([], rest)
  | c :: rest => (untilCommentEnd rest).map fun (held, rest) => (c :: held, rest)

/-- What the comment at the start of a text holds, and what follows the comment. -/
def readComment? (text : String) : Option (List Char × List Char) :=
  match text.toList with
  | '/' :: '*' :: rest => untilCommentEnd rest
  | _ => none

theorem untilCommentEnd_cons_eq_some_iff {c : Char} {text held rest : List Char}
    (h : ¬ ['*', '/'] <+: c :: text) : untilCommentEnd (c :: text) = some (held, rest)
      ↔ ∃ behind, held = c :: behind ∧ untilCommentEnd text = some (behind, rest) := by
  rw [untilCommentEnd]
  · rw [Option.map_eq_some_iff]
    simp only [Prod.exists, Prod.mk.injEq]
    constructor
    · rintro ⟨behind, _, hbehind, rfl, rfl⟩
      exact ⟨behind, rfl, hbehind⟩
    · rintro ⟨behind, rfl, hbehind⟩
      exact ⟨behind, rest, hbehind, rfl, rfl⟩
  · rintro rest rfl rfl
    exact h (by simp)

/-- **A comment is read up to the first mark that ends comments.** -/
theorem untilCommentEnd_eq_some_iff {text held rest : List Char} :
    untilCommentEnd text = some (held, rest)
      ↔ text = held ++ '*' :: '/' :: rest ∧ ¬ ['*', '/'] <:+: held := by
  induction text generalizing held with
  | nil => simp [untilCommentEnd]
  | cons c text ih =>
    by_cases hend : ['*', '/'] <+: c :: text
    · obtain ⟨behind, heq⟩ := hend
      obtain ⟨rfl, rfl⟩ : '*' = c ∧ '/' :: behind = text := by simpa using heq
      rw [untilCommentEnd]
      match held with
      | [] => simp
      | [first] => simp
      | first :: second :: held =>
        refine iff_of_false (by simp) ?_
        rintro ⟨heq, hnone⟩
        obtain ⟨rfl, rfl, -⟩ : '*' = first ∧ '/' = second ∧ _ := by simpa using heq
        exact hnone (List.prefix_append ['*', '/'] held).isInfix
    · rw [untilCommentEnd_cons_eq_some_iff hend]
      constructor
      · rintro ⟨held, rfl, hheld⟩
        obtain ⟨rfl, hnone⟩ := ih.1 hheld
        refine ⟨rfl, fun hsome => ?_⟩
        rcases List.infix_cons_iff.1 hsome with hstart | hlater
        · exact hend (hstart.trans (List.prefix_append (c :: held) _))
        · exact hnone hlater
      · rintro ⟨heq, hnone⟩
        cases held with
        | nil => exact absurd (by rw [heq]; simp) hend
        | cons first held =>
          obtain ⟨rfl, rfl⟩ := List.cons.inj heq
          exact ⟨held, rfl, ih.2 ⟨rfl, fun hlater => hnone (List.infix_cons hlater)⟩⟩

namespace DeferredQuery

variable {deferred : DeferredQuery} {preparation : Preparation}

/-! ## The parts of a description -/

/-- The line of the comment that shows a value under a name. -/
def noteLine (name shown : List Char) : List Char :=
  ' ' :: (['*'] ++ ' ' :: (name ++ ' ' :: '=' :: ' ' :: shown))

/-- The line of the comment that shows a parameter. -/
def parameterNote (parameter : Sql.BoundValue) : List Char :=
  noteLine parameter.name.toList (Sql.BoundValue.describe parameter.value).toList

/-- The lines inside the comment. -/
def noteLines (preparation : Preparation) : List (List Char) :=
  (" * Materialize as " ++ preparation.projector.description).toList
    :: preparation.statement.parameters.map parameterNote

/-- What the comment is meant to hold. -/
def note (preparation : Preparation) : List Char :=
  '\n' :: ((noteLines preparation).flatMap (· ++ ['\n']) ++ [' '])

theorem map_toList_header (preparation : Preparation) : (header preparation).map String.toList
    = ['/', '*'] :: noteLines preparation ++ [[' ', '*', '/']] := by
  simp only [header, List.map_append, List.map_cons, List.map_nil, List.map_map, noteLines]
  refine congrArg (_ :: _ :: · ++ _) (List.map_congr_left fun parameter _ => ?_)
  simp [parameterNote, noteLine]

/-- The comment holds its note, and its marks around it. -/
theorem toList_header (preparation : Preparation) :
    ("\n".intercalate (header preparation)).toList
      = '/' :: '*' :: (note preparation ++ ['*', '/']) := by
  rw [String.toList_intercalate, map_toList_header, show "\n".toList = ['\n'] from rfl,
    intercalate_concat, note]
  simp

/-- **A description is its comment and, on the next line, its statement.** -/
theorem toList_describe (hprepare : deferred.prepare = .ok preparation) :
    deferred.describe.toList = '/' :: '*' :: (note preparation
      ++ '*' :: '/' :: '\n' :: preparation.statement.text.toList) := by
  rw [describe, hprepare]
  simp only [String.toList_intercalate, List.map_append, map_toList_header, List.map_cons,
    List.map_nil]
  rw [show "\n".toList = ['\n'] from rfl, intercalate_concat, note]
  simp

theorem readComment?_describe (hprepare : deferred.prepare = .ok preparation) :
    readComment? deferred.describe = untilCommentEnd (note preparation
      ++ '*' :: '/' :: '\n' :: preparation.statement.text.toList) := by
  rw [readComment?, toList_describe hprepare]
  rfl

/-! ## Marks inside the comment -/

/-- A parameter is named by a letter and its number. -/
theorem name_of_mem_parameters (hprepare : deferred.prepare = .ok preparation)
    {parameter : Sql.BoundValue} (hmem : parameter ∈ preparation.statement.parameters) :
    ∃ number : Nat, parameter.name = s!"p{number}" := by
  obtain ⟨_, _, plan, -, -, rfl⟩ := prepare_eq_ok.1 hprepare
  have hnamed (fragment : Sql.Fragment)
      (hmem : parameter ∈ (fragment.toStatement plan.dialect).parameters) :
      ∃ number : Nat, parameter.name = s!"p{number}" := by
    rw [Sql.Fragment.parameters_toStatement] at hmem
    obtain ⟨i, _, rfl⟩ := List.mem_mapIdx.1 hmem
    exact ⟨i + 1, rfl⟩
  cases hshape : deferred.shape with
  | rows | count => rw [hshape] at hmem; exact hnamed _ hmem

/-- So no name holds the end of a comment. -/
theorem not_infix_name (hprepare : deferred.prepare = .ok preparation)
    {parameter : Sql.BoundValue} (hmem : parameter ∈ preparation.statement.parameters) :
    ¬ ['*', '/'] <:+: parameter.name.toList := by
  obtain ⟨number, hname⟩ := name_of_mem_parameters hprepare hmem
  have hchars : parameter.name.toList = 'p' :: Nat.toDigits 10 number := by
    rw [hname]
    simp [toString, Nat.repr_eq_ofList_toDigits]
  intro h
  have hslash : '/' ∈ 'p' :: Nat.toDigits 10 number := by
    rw [← hchars]
    exact h.subset (List.mem_cons_of_mem _ List.mem_cons_self)
  rcases List.mem_cons.1 hslash with heq | hdigit
  · exact absurd heq (by decide)
  · exact absurd (isAsciiDigit_of_mem_toDigits hdigit) (by decide)

/-- A line of the comment holds the end of a comment exactly if the value shown in it does. -/
theorem infix_noteLine_iff {name shown : List Char} (hname : ¬ ['*', '/'] <:+: name) :
    ['*', '/'] <:+: noteLine name shown ↔ ['*', '/'] <:+: shown := by
  have hblank : ' ' ∉ ['*', '/'] := by decide
  have hstar : ¬ ['*', '/'] <:+: ['*'] := by decide
  rw [noteLine, infix_mark_cons_iff hblank, infix_append_cons_iff hblank, or_iff_right hstar,
    infix_append_cons_iff hblank, or_iff_right hname, infix_mark_cons_iff (by decide),
    infix_mark_cons_iff hblank]

theorem infix_parameterNote_iff (hprepare : deferred.prepare = .ok preparation)
    {parameter : Sql.BoundValue} (hmem : parameter ∈ preparation.statement.parameters) :
    ['*', '/'] <:+: parameterNote parameter ↔ parameter.value.Holds "*/" := by
  rw [parameterNote, infix_noteLine_iff (not_infix_name hprepare hmem)]
  have hmark : "*/" ≠ "" := by decide
  exact Sql.BoundValue.infix_describe_iff hmark (by decide)

/-- The first line of the comment holds no end of a comment. -/
theorem not_infix_heading (projector : Projector) :
    ¬ ['*', '/'] <:+: (" * Materialize as " ++ projector.description).toList := by
  cases projector <;> decide

/-- **The comment holds the end of a comment exactly if a parameter does.** -/
theorem infix_note_iff (hprepare : deferred.prepare = .ok preparation) :
    ['*', '/'] <:+: note preparation
      ↔ ∃ parameter ∈ preparation.statement.parameters, parameter.value.Holds "*/" := by
  rw [note, infix_mark_cons_iff (by decide), infix_ended_append_iff (by decide),
    or_iff_left (by decide), noteLines, List.exists_mem_cons_iff,
    or_iff_right (not_infix_heading _)]
  simp only [List.mem_map, exists_exists_and_eq_and]
  exact exists_congr fun parameter =>
    and_congr_right fun hmem => infix_parameterNote_iff hprepare hmem

/-- **The comment ends inside the first value that holds the end of a comment.**  What follows
begins with the rest of the value. -/
theorem readComment?_describe_of_holds (hprepare : deferred.prepare = .ok preparation)
    {before after : List Sql.BoundValue} {name shown leaked : String}
    (hparameters : preparation.statement.parameters
      = before ++ ⟨name, .string (shown ++ "*/" ++ leaked)⟩ :: after)
    (hbefore : ∀ parameter ∈ before, ¬ parameter.value.Holds "*/")
    (hshown : ¬ ['*', '/'] <:+: shown.toList) :
    ∃ held rest, readComment? deferred.describe
      = some (held, Quoted.double '\'' leaked.toList ++ '\'' :: '\n' :: rest) := by
  have hmem {parameter : Sql.BoundValue} (h : parameter ∈ before) :
      parameter ∈ preparation.statement.parameters := by simp [hparameters, h]
  have hname : ¬ ['*', '/'] <:+: name.toList :=
    not_infix_name hprepare (hparameters ▸ List.mem_append_right _ List.mem_cons_self)
  let lines := (" * Materialize as " ++ preparation.projector.description).toList
    :: before.map parameterNote
  let held := '\n' :: (lines.flatMap (· ++ ['\n'])
    ++ noteLine name.toList ('\'' :: Quoted.double '\'' shown.toList))
  let rest := (after.map parameterNote).flatMap (· ++ ['\n']) ++ ' ' :: '*' :: '/' :: '\n'
    :: preparation.statement.text.toList
  have hnone : ¬ ['*', '/'] <:+: held := by
    rw [infix_mark_cons_iff (by decide), infix_ended_append_iff (by decide),
      infix_noteLine_iff hname, infix_mark_cons_iff (by decide),
      Quoted.infix_double_iff (by decide), or_iff_left hshown, List.exists_mem_cons_iff, or_iff_right (not_infix_heading _)]
    simp only [List.mem_map, exists_exists_and_eq_and]
    rintro ⟨parameter, h, hholds⟩
    exact hbefore parameter h ((infix_parameterNote_iff hprepare (hmem h)).1 hholds)
  refine ⟨held, rest, ?_⟩
  rw [readComment?_describe hprepare, untilCommentEnd_eq_some_iff]
  refine ⟨?_, hnone⟩
  have hmark (text : List Char) :
      Quoted.double '\'' ('*' :: '/' :: text) = '*' :: '/' :: Quoted.double '\'' text := rfl
  simp [note, noteLines, hparameters, held, lines, rest, parameterNote, noteLine,
    Sql.BoundValue.describe, Value.text, Value.stringLiteral, Quoted.encode, Quoted.double_append,
    hmark]

/-! ## Descriptions -/

/-- **A description is read as its comment and its statement exactly if no parameter holds the end
of a comment.**  Otherwise the comment ends inside the first value that holds it, and the rest of
the value, in which quotes are written twice, stands before the statement. -/
theorem readComment?_describe_iff (hprepare : deferred.prepare = .ok preparation) :
    let statement := preparation.statement
    let comment := "\n".intercalate (header preparation)
    comment.toList = '/' :: '*' :: (note preparation ++ ['*', '/'])
      ∧ deferred.describe = comment ++ "\n" ++ statement.text
      ∧ (readComment? deferred.describe = some (note preparation, '\n' :: statement.text.toList)
        ↔ ∀ parameter ∈ statement.parameters, ¬ parameter.value.Holds "*/")
      ∧ ∀ before name shown leaked after, statement.parameters
          = before ++ ⟨name, .string (shown ++ "*/" ++ leaked)⟩ :: after →
        (∀ parameter ∈ before, ¬ parameter.value.Holds "*/") →
        ¬ "*/".toList <:+: shown.toList →
          ∃ held rest, readComment? deferred.describe
            = some (held, Quoted.double '\'' leaked.toList ++ '\'' :: '\n' :: rest) := by
  intro statement comment
  have hcomment := toList_header preparation
  refine ⟨hcomment, ?_, ?_, ?_⟩
  · rw [← String.toList_inj, toList_describe hprepare, String.toList_append, String.toList_append,
      hcomment]
    simp [statement]
  · rw [readComment?_describe hprepare, untilCommentEnd_eq_some_iff, and_iff_right rfl,
      infix_note_iff hprepare]
    simp [statement]
  · intro before name shown leaked after hparameters hbefore hshown
    exact readComment?_describe_of_holds hprepare hparameters hbefore hshown

/-- A string with a quote and the start of a comment in it stays inside the comment; of one that ends
the comment, the rest is read as SQL. -/
theorem readComment?_describe_iff_of_quote :
    let schema : Schema := ⟨"Note", .ofList [("Id", { type := .integer }),
      ("Text", { type := .string })]⟩
    let described (text : String) : DeferredQuery :=
      ⟨.ofSchema .sqlite schema, schema, .query "notes" { filter := some (.binary
        (.binary (.property "Id") (.comparison .lt) (.literal (.int 5))) (.connective .and)
        (.binary (.property "Text") (.comparison .eq) (.literal (.string text)))) }⟩
    (∃ preparation, (described "it's /* here").prepare = .ok preparation
        ∧ readComment? (described "it's /* here").describe
          = some (note preparation, '\n' :: preparation.statement.text.toList))
      ∧ ∃ preparation held rest, (described "it's */ DROP").prepare = .ok preparation
        ∧ readComment? (described "it's */ DROP").describe
          = some (held, " DROP'\n".toList ++ rest) := by
  intro schema described
  constructor
  · have hprepare : ∃ preparation, (described "it's /* here").prepare = .ok preparation
        ∧ ∀ parameter ∈ preparation.statement.parameters, ¬ parameter.value.Holds "*/" :=
      ⟨_, rfl, by decide⟩
    obtain ⟨preparation, hprepare, hnone⟩ := hprepare
    exact ⟨preparation, hprepare, (readComment?_describe_iff hprepare).2.2.1.2 hnone⟩
  · have hprepare : ∃ preparation, (described "it's */ DROP").prepare = .ok preparation
        ∧ preparation.statement.parameters = [⟨"p1", .int 5⟩]
          ++ ⟨"p2", .string ("it's " ++ "*/" ++ " DROP")⟩ :: [] :=
      ⟨_, rfl, by decide⟩
    obtain ⟨preparation, hprepare, hparameters⟩ := hprepare
    have hbefore : ∀ parameter ∈ [(⟨"p1", .int 5⟩ : Sql.BoundValue)],
        ¬ parameter.value.Holds "*/" := List.forall_mem_singleton.2 id
    obtain ⟨held, rest, hread⟩ := (readComment?_describe_iff hprepare).2.2.2 _ _ _ _ _ hparameters
      hbefore (by decide)
    exact ⟨preparation, held, rest, hprepare, hread⟩

/-- A comparison with the end of a comment: the comment ends inside the value, and the statement is
not all that follows it. -/
theorem exists_readComment?_describe_ne :
    ∃ (deferred : DeferredQuery) (preparation : Preparation), deferred.prepare = .ok preparation
      ∧ preparation.statement = ⟨"SELECT \"q\".* FROM notes AS \"q\" WHERE (\"q\".\"Text\" = ?)",
        [⟨"p1", .string "*/"⟩]⟩
      ∧ readComment? deferred.describe = some ("\n * Materialize as rows\n * p1 = '".toList,
        "'\n */\nSELECT \"q\".* FROM notes AS \"q\" WHERE (\"q\".\"Text\" = ?)".toList)
      ∧ readComment? deferred.describe
        ≠ some (note preparation, '\n' :: preparation.statement.text.toList) := by
  let schema : Schema := ⟨"Note", .ofList [("Text", { type := .string })]⟩
  let filter : Expression :=
    .binary (.property "Text") (.comparison .eq) (.literal (.string "*/"))
  exact ⟨⟨.ofSchema .sqlite schema, schema, .query "notes" { filter := some filter }⟩, _, rfl,
    by decide, by decide, by decide⟩

end DeferredQuery
end ODataQuery
