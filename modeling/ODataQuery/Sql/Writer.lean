import ODataQuery.Sql.Fragment
import ODataQuery.Sql.Select

/-!
# Writing SQL

The fragment of a term, a relation and a select in a dialect.  Every operator but `NOT` is written in
parentheses.
-/

set_option autoImplicit false

namespace ODataQuery
namespace Sql

open Fragment (ofText commaSeparated)

/-- A table by its name, or an alias in quotes. -/
def TableRef.fragment : TableRef → Fragment
  | table name => ofText name
  | byAlias name => [.identifier name]

/-- The direction of a key. -/
def directionText : Direction → String
  | .asc => " ASC"
  | .desc => " DESC"

/-- What stands before and after the arguments of a function.  In Transact-SQL, `ROUND` wants the
number of digits as well. -/
def ScalarFunction.frame (style : FunctionStyle) : ScalarFunction → String × String
  | length => (if style = .transactSql then "LEN(" else "LENGTH(", ")")
  | change .toLower => ("LOWER(", ")")
  | change .toUpper => ("UPPER(", ")")
  | change .trim => if style = .transactSql then ("LTRIM(RTRIM(", "))") else ("TRIM(", ")")
  | whole .round => if style = .transactSql then ("ROUND(", "0)") else ("ROUND(", ")")
  | whole .floor => ("FLOOR(", ")")
  | whole .ceiling => ("CEILING(", ")")

/-- Is every argument followed by a comma, also the last. -/
def ScalarFunction.commaAfterLast (style : FunctionStyle) (function : ScalarFunction) : Bool :=
  style == .transactSql && function == .whole .round

/-- The part of a point of time, as the dialects name it. -/
def partName (style : FunctionStyle) (part : TimePart) : String :=
  match style, part with
  | .transactSql, .year => "year"
  | .transactSql, .month => "month"
  | .transactSql, .day => "day"
  | .transactSql, .hour => "hour"
  | .transactSql, .minute => "minute"
  | .transactSql, .second => "second"
  | .postgres, .year => "YEAR"
  | .postgres, .month => "MONTH"
  | .postgres, .day => "DAY"
  | .postgres, .hour => "HOUR"
  | .postgres, .minute => "MINUTE"
  | .postgres, .second => "SECOND"
  | .sqlite, .year => "%Y"
  | .sqlite, .month => "%m"
  | .sqlite, .day => "%d"
  | .sqlite, .hour => "%H"
  | .sqlite, .minute => "%M"
  | .sqlite, .second => "%S"

/-- What stands before and after the operand of a part of a point of time.  In PostgreSQL, seconds
come with their fraction, which is cut off. -/
def partFrame (style : FunctionStyle) (part : TimePart) : String × String :=
  let name := partName style part
  match style with
  | .transactSql => (s!"DATEPART({name}, ", ")")
  | .postgres =>
    if part = .second then (s!"FLOOR(EXTRACT({name} FROM ", "))")
    else (s!"EXTRACT({name} FROM ", ")")
  | .sqlite => (s!"CAST(STRFTIME('{name}', ", ") AS INTEGER)")

mutual

/-- A condition or a scalar. -/
def Term.fragment (style : FunctionStyle) : Term → Fragment
  | .and left right =>
    .verbatim "(" :: left.fragment style ++ .verbatim " AND " :: right.fragment style
      ++ ofText ")"
  | .or left right =>
    .verbatim "(" :: left.fragment style ++ .verbatim " OR " :: right.fragment style
      ++ ofText ")"
  | .not operand => .verbatim "NOT " :: operand.fragment style
  | .binary left operator right =>
    .verbatim "(" :: left.fragment style ++ .verbatim (" " ++ operator.text ++ " ")
      :: right.fragment style ++ ofText ")"
  | .isNull operand => .verbatim "(" :: operand.fragment style ++ ofText " IS NULL)"
  | .isNotNull operand => .verbatim "(" :: operand.fragment style ++ ofText " IS NOT NULL)"
  | .like subject pattern escape =>
    .verbatim "(" :: subject.fragment style ++ .verbatim " LIKE " :: pattern.fragment style
      ++ ofText s!" ESCAPE '{escape}')"
  | .call function args =>
    let frame := function.frame style
    let args := if function.commaAfterLast style then argsTerminated style args
      else argsSeparated style args
    .verbatim frame.1 :: args ++ ofText frame.2
  | .part part operand =>
    let frame := partFrame style part
    .verbatim frame.1 :: operand.fragment style ++ ofText frame.2
  | .column table name => table.fragment ++ [.verbatim ".", .identifier name]
  | .bool b => ofText (if b then "(1 = 1)" else "(1 = 0)")
  | .integer i => ofText (toString i.toInt)
  | .parameter value => [.parameter value]
  | .countAll => ofText "COUNT(*)"
  | .rowNumber keys =>
    .verbatim "ROW_NUMBER() OVER (ORDER BY " :: keysFragment style keys ++ ofText ")"

/-- Arguments with commas between them. -/
def argsSeparated (style : FunctionStyle) : List Term → Fragment
  | [] => []
  | [arg] => arg.fragment style
  | arg :: rest => arg.fragment style ++ .verbatim ", " :: argsSeparated style rest

/-- Arguments with a comma after each. -/
def argsTerminated (style : FunctionStyle) : List Term → Fragment
  | [] => []
  | arg :: rest => arg.fragment style ++ .verbatim ", " :: argsTerminated style rest

/-- The keys of an ordering with commas between them. -/
def keysFragment (style : FunctionStyle) : List (Term × Direction) → Fragment
  | [] => []
  | [(target, direction)] => target.fragment style ++ ofText (directionText direction)
  | (target, direction) :: rest =>
    target.fragment style ++ .verbatim (directionText direction) :: .verbatim ", "
      :: keysFragment style rest

end

/-- What a select returns of its rows. -/
def Selection.fragment (style : FunctionStyle) : Selection → Fragment
  | .columns terms =>
    commaSeparated <| terms.map fun (aliasName, term) =>
      term.fragment style ++ [.verbatim " AS ", .identifier aliasName]
  | .star => ofText "*"
  | .starOf table => table.fragment ++ ofText ".*"
  | .both first second => first.fragment style ++ .verbatim ", " :: second.fragment style

/-- The condition of a select, if it has one. -/
def conditionFragment (style : FunctionStyle) : Term → Fragment
  | .bool true => []
  | condition => .verbatim " WHERE " :: condition.fragment style

/-- The ordering of a select, if it has one. -/
def orderByFragment (style : FunctionStyle) : List (Term × Direction) → Fragment
  | [] => []
  | keys => .verbatim " ORDER BY " :: keysFragment style keys

/-- The page that a select returns, if not all rows.  A dialect that numbers rows has no clause for
pages of its own. -/
def pageText (style : PagingStyle) (limit offset : Option UInt64) : String :=
  match style with
  | .limitOffset offsetRequiresLimit =>
    let limitText := match limit with
      | some limit => s!" LIMIT {limit.toNat}"
      | none => if offsetRequiresLimit && offset.isSome then " LIMIT -1" else ""
    let offsetText := match offset with
      | some offset => s!" OFFSET {offset.toNat}"
      | none => ""
    limitText ++ offsetText
  | .offsetFetch | .rowNumber =>
    if limit.isNone && offset.isNone then ""
    else
      let fetchText := match limit with
        | some limit => s!" FETCH NEXT {limit.toNat} ROWS ONLY"
        | none => ""
      s!" OFFSET {(offset.getD 0).toNat} ROWS" ++ fetchText

/-- A select statement. -/
def Select.fragment (dialect : Dialect) : Select → Fragment
  | ⟨selection, relation, condition, orderBy, limit, offset⟩ =>
    let style := dialect.functions
    let fromFragment : Fragment := match relation with
      | none => []
      | some (.table table aliasName) =>
        .verbatim " FROM " :: table.fragment ++ [.verbatim " AS ", .identifier aliasName]
      | some (.select select aliasName) =>
        .verbatim " FROM (" :: select.fragment dialect ++ [.verbatim ") AS ", .identifier aliasName]
      | some (.raw sql aliasName) =>
        [.verbatim " FROM (", .verbatim sql, .verbatim ") AS ", .identifier aliasName]
    .verbatim "SELECT " :: selection.fragment style ++ fromFragment
      ++ conditionFragment style condition ++ orderByFragment style orderBy
      ++ ofText (pageText dialect.paging limit offset)

/-- The statement of a select. -/
def Select.toStatement (dialect : Dialect) (select : Select) : Statement :=
  (select.fragment dialect).toStatement dialect

end Sql
end ODataQuery
