/-!
# Patterns that match a text literally

Some characters of a `LIKE` pattern match more than themselves.  Written after the escape character,
they match themselves only, and so does the escape character.
-/

set_option autoImplicit false

namespace ODataQuery
namespace Sql
namespace Like

/-- The escape character of all patterns. -/
def escapeCharacter : Char := '\\'

/-- A text in which the escape character and the wildcards are escaped. -/
def escape (wildcards text : List Char) : List Char :=
  text.flatMap fun c =>
    if c = escapeCharacter ∨ c ∈ wildcards then [escapeCharacter, c] else [c]

end Like
end Sql
end ODataQuery
