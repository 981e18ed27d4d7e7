import ODataQuery.DateTime.Text
import ODataQuery.Number.Format
import ODataQuery.Text.Quoted
import ODataQuery.Value.Basic

/-!
# Written values

Values are written as the literals of the filter language: a string in single quotes, with a quote
inside it written twice, and a point of time as a `datetime` literal.
-/

set_option autoImplicit false

namespace ODataQuery
namespace Value

open Text

/-- The literal of a string. -/
def stringLiteral (s : String) : String :=
  String.ofList (Quoted.encode '\'' '\'' s.toList)

/-- The literal of a point of time. -/
def dateTimeLiteral (t : DateTime) : String :=
  "datetime'" ++ t.text ++ "'"

/-- The literal of a value. -/
def text : Value → String
  | null => "null"
  | bool b => if b then "true" else "false"
  | int i => toString i.toInt
  | float x => Number.Layout.literal.write x
  | string s => stringLiteral s
  | dateTime t => dateTimeLiteral t

end Value
end ODataQuery
