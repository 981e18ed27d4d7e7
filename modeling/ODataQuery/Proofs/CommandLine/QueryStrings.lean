import ODataQuery.CommandLine.Commands
import ODataQuery.Proofs.QueryString.Pairs
import ODataQuery.Proofs.Text.FormEncoding

/-!
# Queries as one text

The parameters of a query are given one by one or as one form-encoded text.  Form encoding loses
nothing, so both ways ask the same query or fail alike, whatever the texts hold; and a command that
is given its parameters in one text answers as if each had been an option of its own.

* `Parameters.queryText`: pairs as a query string; `Parameters.pairsOf_queryText`: it holds them.
* `Query.parseQueryString_queryText`: it gives the query that they give.
* `CommandLine.TranslateArguments.inOneText`: the arguments with their parameters in a query string.
* `CommandLine.TranslateArguments.answer_inOneText`: parsing and answering do not depend on the way.
-/

set_option autoImplicit false

namespace ODataQuery

open Text

namespace Parameters

/-- The query string that holds a list of pairs, with or without a question mark before them. -/
def queryText (marked : Bool) (pairs : List (String × String)) : String :=
  if marked then "?" ++ FormEncoding.encode pairs else FormEncoding.encode pairs

theorem withoutQuestionMark_mark (text : String) : withoutQuestionMark ("?" ++ text) = text := by
  have hmark : ("?" ++ text).toList = '?' :: text.toList := by
    rw [String.toList_append]
    rfl
  rw [withoutQuestionMark, hmark]
  exact String.ofList_toList

theorem withoutQuestionMark_of_not_mem {text : String} (h : '?' ∉ text.toList) :
    withoutQuestionMark text = text := by
  rw [withoutQuestionMark]
  split
  · rename_i rest hmark
    rw [hmark] at h
    exact absurd List.mem_cons_self h
  · rfl

/-- **A query string holds the pairs that it was made of.** -/
theorem pairsOf_queryText (marked : Bool) (pairs : List (String × String)) :
    pairsOf (queryText marked pairs) = pairs := by
  rw [pairsOf, queryText]
  cases marked with
  | false =>
    rw [if_neg Bool.false_ne_true,
      withoutQuestionMark_of_not_mem (FormEncoding.not_mem_encode pairs),
      FormEncoding.decode_encode]
  | true => rw [if_pos rfl, withoutQuestionMark_mark, FormEncoding.decode_encode]

/-- So the parameters in it are those that are collected from the pairs. -/
theorem ofQueryString_queryText (marked : Bool) (pairs : List (String × String)) :
    ofQueryString (queryText marked pairs) = collect pairs := by
  rw [ofQueryString, pairsOf_queryText]

end Parameters

namespace Query

open Parameters (collect ofQueryString_queryText queryText)

/-- **A query string gives the query of its pairs**, or fails as they do: a parameter that is given
twice is found when they are collected, and else collecting them again changes nothing. -/
theorem parseQueryString_queryText (marked : Bool) (schema : Schema)
    (pairs : List (String × String)) :
    parseQueryString schema (queryText marked pairs) = parse schema pairs := by
  rw [parseQueryString, ofQueryString_queryText]
  cases hcollect : collect pairs with
  | error error =>
    rw [parse, hcollect]
    rfl
  | ok parameters => exact parse_pairs schema hcollect

end Query

namespace CommandLine
namespace TranslateArguments

open Parameters

/-- The arguments with their parameters in a query string. -/
def inOneText (marked : Bool) (arguments : TranslateArguments) : TranslateArguments where
  table := arguments.table
  queryString := some (queryText marked arguments.pairs)
  pretty := arguments.pretty

/-- The arguments with their parameters one by one. -/
def oneByOne (arguments : TranslateArguments) : TranslateArguments :=
  { arguments with queryString := none }

/-- An answer depends on the table, on the query that is asked of it and on whether its statements
are to be laid out. -/
theorem answer_congr {first second : TranslateArguments} (htable : first.table = second.table)
    (hquery : first.query = second.query) (hpretty : first.pretty = second.pretty)
    (format : SqlFormatter) (path : String) (file : Except FileError String) :
    first.answer format path file = second.answer format path file := by
  have hanswer : first.answerFrom format = second.answerFrom format := by
    funext catalog
    rw [answerFrom, answerFrom, layOut, layOut, htable, hquery, hpretty]
  rw [answer, answer, hanswer]

/-- **A query string asks for what its pairs ask for**, and a command answers it as it answers the
same parameters one by one. -/
theorem answer_inOneText (marked : Bool) :
    (∀ (schema : Schema) (pairs : List (String × String)),
      Query.parseQueryString schema (queryText marked pairs) = Query.parse schema pairs)
      ∧ ∀ arguments : TranslateArguments,
        (arguments.inOneText marked).query = arguments.oneByOne.query
          ∧ ∀ format path file, (arguments.inOneText marked).answer format path file
            = arguments.oneByOne.answer format path file := by
  have hquery (arguments : TranslateArguments) :
      (arguments.inOneText marked).query = arguments.oneByOne.query :=
    funext fun schema => Query.parseQueryString_queryText marked schema arguments.pairs
  exact ⟨Query.parseQueryString_queryText marked, fun arguments =>
    ⟨hquery arguments, answer_congr rfl (hquery arguments) rfl⟩⟩

end TranslateArguments
end CommandLine
end ODataQuery
