import CoinQuery.Coin.Category

/-!
# Requests to the services

Every request is a form: an action, and fields with texts in the order in which they are sent. What
sends the form, and when, is not decided here.
-/

namespace CoinQuery

/-! ## What is asked for -/

/-- The kind of record a search returns. -/
inductive SearchType
  | numismaticObject
  | typeSeriesItem
deriving DecidableEq, Inhabited

namespace SearchType

def name : SearchType → String
  | numismaticObject => "NumismaticObject"
  | typeSeriesItem => "TypeSeriesItem"

/-- Blanks around a name do not matter; the case of its letters does. -/
def named (name : String) : Except QueryError SearchType :=
  match Text.trim name with
  | "NumismaticObject" | "Coin" => .ok numismaticObject
  | "TypeSeriesItem" | "Type" => .ok typeSeriesItem
  | _ => .error (.unknownSearchType name)

def toJson (t : SearchType) : Json := .string t.name

def ofJson? (j : Json) : Option SearchType := do
  match ← j.choice? with
  | "NumismaticObject" => some numismaticObject
  | "TypeSeriesItem" | "Type" => some typeSeriesItem
  | _ => none

end SearchType

/-- The tables in which recommendations are looked up. -/
structure Scope where
  /-- Each category at most once, in the order of all categories. -/
  categories : List Category
  hierarchy : Bool
deriving DecidableEq

namespace Scope

def hierarchyTable : String := "hierarchy"

def ofCategories (categories : List Category) : Scope :=
  ⟨Category.all.filter categories.contains, false⟩

/-- The tables of all categories. -/
def descriptors : Scope := ofCategories Category.all

def hierarchyOnly : Scope := ⟨[], true⟩

def tables (s : Scope) : List String :=
  s.categories.map Category.table ++ if s.hierarchy then [hierarchyTable] else []

/-- The scope as a number, with one bit for each category and one for the hierarchy. -/
def bits (s : Scope) : Nat :=
  s.categories.foldl (fun bits c => bits + Nat.pow 2 c.index) (if s.hierarchy then 32 else 0)

end Scope

/-! ## Requests -/

abbrev FormFields := List (String × String)

structure RecommendationRequest where
  scope : Scope
  query : String
deriving DecidableEq

namespace RecommendationRequest

def action : String := "getRecommendations"

/-- Looks up a class of the hierarchy. -/
def hierarchy (name : String) : RecommendationRequest := ⟨Scope.hierarchyOnly, name⟩

def form (r : RecommendationRequest) : FormFields :=
  ("action", action) ::
    (r.scope.tables.map fun table => ("scope[" ++ table ++ "]", "true")) ++ [("q", r.query)]

end RecommendationRequest

/-- Asks for a query to be compiled. -/
structure CompileRequest where
  /-- Orders the requests; see `CompileSequencer`. -/
  seq : Nat
  /-- The portable form of the coins. -/
  coins : String
  relation : String
  searchType : SearchType
deriving DecidableEq

namespace CompileRequest

def action : String := "generateQuery"

def form (r : CompileRequest) : FormFields :=
  [("action", action), ("coins", r.coins), ("relationString", r.relation),
    ("searchType", r.searchType.name)]

end CompileRequest

structure SearchRequest where
  query : String
  searchType : SearchType
deriving DecidableEq

namespace SearchRequest

def action : String := "searchCoin"

def form (r : SearchRequest) : FormFields :=
  [("action", action), ("q", r.query), ("searchType", r.searchType.name)]

end SearchRequest

/-- Asks for the results of a query as a file. -/
structure DownloadRequest where
  query : String
  searchType : SearchType
deriving DecidableEq

namespace DownloadRequest

def action : String := "download"

def form (r : DownloadRequest) : FormFields :=
  [("action", action), ("fileType", "csv"), ("searchType", r.searchType.name), ("q", r.query)]

end DownloadRequest

end CoinQuery
