import ODataQuery.Query.Basic
import ODataQuery.QueryString.Lexer

/-!
# Reading orderings

An ordering is a list of property names with commas between them, each perhaps followed by `asc` or
`desc`.  These two words are no keywords elsewhere: they may name properties as well.
-/

set_option autoImplicit false

namespace ODataQuery
namespace OrderBy

/-- Read the keys of an ordering that ends at a position. -/
def ofTokens (schema : Schema) (endPosition : Nat) : List Token → Except Failure (List SortKey)
  | [] => .error ⟨endPosition, .expectedPropertyName⟩
  | ⟨.identifier name, position⟩ :: rest =>
    match schema.lookup name with
    | .error error => .error ⟨position, .unknownProperty error⟩
    | .ok _ =>
      match rest with
      | [] => .ok [⟨name, .asc⟩]
      | ⟨.comma, _⟩ :: rest => (ofTokens schema endPosition rest).map (⟨name, .asc⟩ :: ·)
      | ⟨.identifier word, position⟩ :: rest =>
        match Direction.ofKeyword? word with
        | none => .error ⟨position, .expectedDirection⟩
        | some direction =>
          match rest with
          | [] => .ok [⟨name, direction⟩]
          | ⟨.comma, _⟩ :: rest => (ofTokens schema endPosition rest).map (⟨name, direction⟩ :: ·)
          | token :: _ => .error ⟨token.position, .expectedDirection⟩
      | token :: _ => .error ⟨token.position, .expectedDirection⟩
  | token :: _ => .error ⟨token.position, .expectedPropertyName⟩

/-- Read the value of an ordering. -/
def parse (schema : Schema) (text : String) : Except Failure (List SortKey) := do
  let tokens ← Lexer.tokenize text
  ofTokens schema text.length tokens

end OrderBy
end ODataQuery
