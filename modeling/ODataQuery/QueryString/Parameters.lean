import ODataQuery.QueryString.Filter
import ODataQuery.QueryString.OrderBy
import ODataQuery.Text.FormEncoding

/-!
# Query parameters

A query is given by the parameters `$filter`, `$orderby`, `$skip`, `$top` and `$inlinecount`, as
pairs of a key and a text or as one form-encoded text.

* `Parameters.collect` keeps the pairs with a recognized key and a value that is not blank; a
  parameter given twice is an error.
* `Query.parse` reads the parameters in the order above, whatever the order of the pairs, so that
  the first fault in that order is reported.
* `Query.parseQueryString` collects the parameters of a query string, and parses what it collected as
  pairs.
-/

set_option autoImplicit false

namespace ODataQuery

/-- The recognized parameters. -/
inductive Parameter where
  | filter
  | orderBy
  | skip
  | top
  | inlineCount
  deriving DecidableEq, Repr

namespace Parameter

/-- Every parameter, in the order they are read in. -/
def all : List Parameter := [filter, orderBy, skip, top, inlineCount]

/-- The key of the parameter. -/
def key : Parameter → String
  | filter => "$filter"
  | orderBy => "$orderby"
  | skip => "$skip"
  | top => "$top"
  | inlineCount => "$inlinecount"

/-- The parameter of a key. -/
def ofKey? (key : String) : Option Parameter :=
  all.find? (·.key == key)

theorem ofKey?_key (parameter : Parameter) : ofKey? parameter.key = some parameter := by
  cases parameter <;> decide

end Parameter

/-- A fault in the value of a parameter. -/
structure ParseError where
  parameter : Parameter
  failure : Failure
  deriving DecidableEq

namespace ParseError

/-- The text of the error. -/
def message (error : ParseError) : String :=
  let fault := error.failure.fault
  s!"{fault.kind.text} in {error.parameter.key} at position {error.failure.position}: " ++
    fault.message

end ParseError

/-- The texts of the parameters that are given. -/
abbrev Parameters := List (Parameter × String)

namespace Parameters

/-- Add one pair to the parameters so far. -/
def add (parameters : Parameters) (pair : String × String) : Except ParseError Parameters :=
  match Parameter.ofKey? pair.1 with
  | none => .ok parameters
  | some parameter =>
    if Text.isBlankText pair.2 then .ok parameters
    else if (parameters.lookup parameter).isSome then
      .error ⟨parameter, 0, .repeated parameter.key⟩
    else .ok (parameters ++ [(parameter, pair.2)])

/-- The parameters among a list of pairs. -/
def collect (pairs : List (String × String)) : Except ParseError Parameters :=
  pairs.foldlM add []

/-- The parameters in the order they are read in. -/
def inOrder (parameters : Parameters) : List (Parameter × String) :=
  Parameter.all.filterMap fun parameter =>
    (parameters.lookup parameter).map fun text => (parameter, text)

/-- The parameters as pairs of a key and a text, in the order they are read in. -/
def pairs (parameters : Parameters) : List (String × String) :=
  parameters.inOrder.map fun (parameter, text) => (parameter.key, text)

/-- The text of a query string without the question mark it may start with. -/
def withoutQuestionMark (text : String) : String :=
  match text.toList with
  | '?' :: rest => String.ofList rest
  | _ => text

/-- The pairs that a query string holds. -/
def pairsOf (queryString : String) : List (String × String) :=
  Text.FormEncoding.decode (withoutQuestionMark queryString)

/-- The parameters in a query string. -/
def ofQueryString (queryString : String) : Except ParseError Parameters :=
  collect (pairsOf queryString)

/-! ## Single values -/

/-- Read a number of records: digits, with blanks around them. -/
def readCount (text : String) : Except Failure UInt64 :=
  let digits := Text.trim text.toList
  let position := text.length - (Text.trimStart text.toList).length
  if !digits.all Text.isAsciiDigit then .error ⟨position, .notACount (String.ofList digits)⟩
  else
    match if digits.isEmpty then none else Number.natural? (Text.digitsValue digits) with
    | some count => .ok count
    | none => .error ⟨position, .countOutOfRange (String.ofList digits)⟩

/-- Read the choice of an inline count. -/
def readInlineCount (text : String) : Except Failure InlineCount :=
  let word := String.ofList (Text.trim text.toList)
  match InlineCount.ofKeyword? word with
  | some choice => .ok choice
  | none => .error ⟨0, .unknownInlineCount word⟩

/-- Read the value of a parameter if it is given. -/
def read {α : Type} (parameters : Parameters) (parameter : Parameter)
    (reader : String → Except Failure α) : Except ParseError (Option α) :=
  match parameters.lookup parameter with
  | none => .ok none
  | some text =>
    match reader text with
    | .ok value => .ok (some value)
    | .error failure => .error ⟨parameter, failure⟩

end Parameters

namespace Query

/-- The query that parameters give. -/
def ofParameters (schema : Schema) (parameters : Parameters) : Except ParseError Query := do
  let filter ← parameters.read .filter (Filter.parse schema)
  let orderBy ← parameters.read .orderBy (OrderBy.parse schema)
  let skip ← parameters.read .skip Parameters.readCount
  let top ← parameters.read .top Parameters.readCount
  let inlineCount ← parameters.read .inlineCount Parameters.readInlineCount
  .ok ⟨filter, orderBy.getD [], skip, top, inlineCount.getD .none⟩

/-- The query that pairs of a key and a text give. -/
def parse (schema : Schema) (pairs : List (String × String)) : Except ParseError Query := do
  let parameters ← Parameters.collect pairs
  ofParameters schema parameters

/-- The query that a query string gives: its parameters are collected, and parsed as pairs are. -/
def parseQueryString (schema : Schema) (queryString : String) : Except ParseError Query := do
  let parameters ← Parameters.ofQueryString queryString
  parse schema parameters.pairs

end Query
end ODataQuery
