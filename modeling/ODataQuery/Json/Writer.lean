import ODataQuery.Json.Basic
import ODataQuery.Number.Format

/-!
# Writing JSON

* `Json.compact`: on one line, without blanks.
* `Json.pretty`: each item and each field on a line of its own, indented by two spaces a level.

Doubles that are no number, or infinite, have no JSON form and are written `null`.
-/

set_option autoImplicit false

namespace ODataQuery
namespace Json

/-- A hexadecimal digit in lower case. -/
def hexDigit (n : Nat) : Char :=
  (Nat.digitChar n)

/-- One character inside a string. -/
def escapeChar (c : Char) : List Char :=
  if c = '"' then ['\\', '"']
  else if c = '\\' then ['\\', '\\']
  else if c = '\n' then ['\\', 'n']
  else if c = '\r' then ['\\', 'r']
  else if c = '\t' then ['\\', 't']
  else if c = '\x08' then ['\\', 'b']
  else if c = '\x0c' then ['\\', 'f']
  else if c.toNat < 0x20 then
    ['\\', 'u', '0', '0', hexDigit (c.toNat / 16), hexDigit (c.toNat % 16)]
  else [c]

/-- A string in quotes. -/
def stringText (s : String) : String :=
  String.ofList ('"' :: s.toList.flatMap escapeChar ++ ['"'])

/-- A number. -/
def numberText : JsonNumber → String
  | .whole n => toString n
  | .real x =>
    match Number.shape x with
    | .finite _ => Number.Layout.json.write x
    | _ => "null"

/-- An opening brace. -/
def openBrace : String := "\x7b"

/-- A closing brace. -/
def closeBrace : String := "\x7d"

mutual

/-- The value on one line. -/
def compact : Json → String
  | null => "null"
  | bool b => if b then "true" else "false"
  | number n => numberText n
  | string s => stringText s
  | array items => "[" ++ compactItems items ++ "]"
  | object fields => openBrace ++ compactFields fields ++ closeBrace

/-- Items with commas between them. -/
def compactItems : List Json → String
  | [] => ""
  | [item] => item.compact
  | item :: rest => item.compact ++ "," ++ compactItems rest

/-- Fields with commas between them. -/
def compactFields : List (String × Json) → String
  | [] => ""
  | [(name, value)] => stringText name ++ ":" ++ value.compact
  | (name, value) :: rest => stringText name ++ ":" ++ value.compact ++ "," ++ compactFields rest

end

/-- A line break and the indentation of a level. -/
def lineBreak (level : Nat) : String :=
  String.ofList ('\n' :: List.replicate (2 * level) ' ')

mutual

/-- The value over several lines, of which the first is at the given level. -/
def prettyAt (level : Nat) : Json → String
  | array [] => "[]"
  | array items => "[" ++ prettyItems (level + 1) items ++ lineBreak level ++ "]"
  | object [] => openBrace ++ closeBrace
  | object fields => openBrace ++ prettyFields (level + 1) fields ++ lineBreak level ++ closeBrace
  | null => "null"
  | bool b => if b then "true" else "false"
  | number n => numberText n
  | string s => stringText s

/-- Items on lines of their own. -/
def prettyItems (level : Nat) : List Json → String
  | [] => ""
  | [item] => lineBreak level ++ item.prettyAt level
  | item :: rest => lineBreak level ++ item.prettyAt level ++ "," ++ prettyItems level rest

/-- Fields on lines of their own. -/
def prettyFields (level : Nat) : List (String × Json) → String
  | [] => ""
  | [(name, value)] => lineBreak level ++ stringText name ++ ": " ++ value.prettyAt level
  | (name, value) :: rest =>
    lineBreak level ++ stringText name ++ ": " ++ value.prettyAt level ++ "," ++
      prettyFields level rest

end

/-- The value over several lines. -/
def pretty (value : Json) : String :=
  value.prettyAt 0

end Json
end ODataQuery
