import CoinQuery.Results.Pages
import CoinQuery.Service.Response

/-!
# Configuration

Every setting has a default, so a configuration names only what it changes.
-/

namespace CoinQuery

structure Config where
  pageSize : Nat
  debounceMs : Nat
  minQueryChars : Nat
  searchType : SearchType
  recommendationScope : List Category
deriving DecidableEq

namespace Config

def default : Config where
  pageSize := defaultPageSize
  debounceMs := 300
  minQueryChars := 2
  searchType := .numismaticObject
  recommendationScope := Category.all

def scope (c : Config) : Scope := Scope.ofCategories c.recommendationScope

def toJson (c : Config) : Json :=
  .object [
    ("page_size", .number (.integer c.pageSize)),
    ("debounce_ms", .number (.integer c.debounceMs)),
    ("min_query_chars", .number (.integer c.minQueryChars)),
    ("search_type", c.searchType.toJson),
    ("recommendation_scope", .array (c.recommendationScope.map Category.toJson))]

def ofJson? (j : Json) : Option Config := do
  match ← j.slots?
    ["page_size", "debounce_ms", "min_query_chars", "search_type", "recommendation_scope"] with
  | [pageSize, debounceMs, minQueryChars, searchType, scope] =>
    some ⟨← pageSize.defaulted default.pageSize Json.word?,
      ← debounceMs.defaulted default.debounceMs Json.word?,
      ← minQueryChars.defaulted default.minQueryChars Json.word?,
      ← searchType.defaulted default.searchType SearchType.ofJson?,
      ← scope.defaulted default.recommendationScope (Json.list? Category.ofJson?)⟩
  | _ => none

/-- A configuration that can be used. -/
def validate (c : Config) : Except QueryError Config :=
  if c.pageSize = 0 then .error (.invalidConfig "page_size must be at least 1") else .ok c

/-- The configuration a text spells, not validated. -/
def ofText (text : String) : Except QueryError Config := decoded ofJson? (Json.read? text)

/-- The configuration a text spells, if it can be used. -/
def load (text : String) : Except QueryError Config := do (← ofText text).validate

end Config

end CoinQuery
