import ODataQuery.Expression.Basic

/-!
# Queries

A query describes which records are wanted: a filter, an ordering, how many matches to skip, how
many to return at most, and whether all matches are to be counted as well.  What is absent does not
constrain the result.

* `Query.isPaged`: can the query drop matches.
* `Query.unpaged`: the query whose matches an inline count counts.
* `Update`, `Query.update`: a query derived from another by replacing some of its parts.
-/

set_option autoImplicit false

namespace ODataQuery

/-- The direction of one key of an ordering. -/
inductive Direction where
  | asc
  | desc
  deriving DecidableEq, Repr

/-- The word that stands for the direction in an ordering. -/
def Direction.keyword : Direction → String
  | asc => "asc"
  | desc => "desc"

/-- The direction that a word stands for. -/
def Direction.ofKeyword? (word : String) : Option Direction :=
  if word = "asc" then some asc else if word = "desc" then some desc else none

theorem Direction.ofKeyword?_keyword (direction : Direction) :
    ofKeyword? direction.keyword = some direction := by
  cases direction <;> decide

/-- One key of an ordering. -/
structure SortKey where
  property : String
  direction : Direction
  deriving DecidableEq, Repr

/-- Are all matches counted, besides those returned. -/
inductive InlineCount where
  | none
  | allPages
  deriving DecidableEq, Repr

/-- The word that stands for the choice in a query string. -/
def InlineCount.keyword : InlineCount → String
  | none => "none"
  | allPages => "allpages"

/-- The choice that a word stands for. -/
def InlineCount.ofKeyword? (word : String) : Option InlineCount :=
  if word = "none" then some .none else if word = "allpages" then some .allPages else Option.none

theorem InlineCount.ofKeyword?_keyword (choice : InlineCount) :
    ofKeyword? choice.keyword = some choice := by
  cases choice <;> decide

/-- Which records are wanted, in which order. -/
structure Query where
  filter : Option Expression := none
  orderBy : List SortKey := []
  skip : Option UInt64 := none
  top : Option UInt64 := none
  inlineCount : InlineCount := .none

instance : Inhabited Query := ⟨{}⟩

/-- The parts of a query to replace; an absent part is kept. -/
structure Update where
  filter : Option (Option Expression) := none
  orderBy : Option (List SortKey) := none
  skip : Option (Option UInt64) := none
  top : Option (Option UInt64) := none
  inlineCount : Option InlineCount := none

namespace Query

/-- Can the query drop matching records. -/
def isPaged (query : Query) : Bool :=
  (match query.skip with
    | some skip => 0 < skip
    | none => false) || query.top.isSome

/-- The query with the parts of an update replaced. -/
def update (query : Query) (changes : Update) : Query where
  filter := changes.filter.getD query.filter
  orderBy := changes.orderBy.getD query.orderBy
  skip := changes.skip.getD query.skip
  top := changes.top.getD query.top
  inlineCount := changes.inlineCount.getD query.inlineCount

/-- The query without paging, whose matches an inline count counts. -/
def unpaged (query : Query) : Query :=
  query.update { skip := some (some 0), top := some none }

theorem isPaged_unpaged (query : Query) : query.unpaged.isPaged = false := by
  simp [unpaged, update, isPaged]

end Query
end ODataQuery
