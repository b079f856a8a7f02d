import CoinQuery.Coin.Description
import CoinQuery.Service.Request

/-!
# Recommendations

The result of a lookup holds rows by table. Tables that are no lists, tables that are not known and
rows that are no objects are passed over. Several tables may stand for one category, since a
category has more names than one; each of them is an entry of its own, and looking up a category
finds the first.
-/

namespace CoinQuery

structure Recommendations where
  /-- The tables of categories, in the order of all categories. -/
  entries : List (Category × List Item)
  hierarchy : List Item
deriving Inhabited

namespace Recommendations

def empty : Recommendations := ⟨[], []⟩

/-- The rows of a table that is a list. -/
def rows? : Json → Option (List Item)
  | .array rows => some (rows.filterMap Item.ofJson?)
  | _ => none

/-- The entry that a table of a result makes. -/
def entry? (member : String × Json) : Option (Category × List Item) :=
  if member.1 = Scope.hierarchyTable then none
  else match rows? member.2, Category.named member.1 with
    | some items, .ok category => some (category, items)
    | _, _ => none

def ofResult (result : Json.Fields) : Recommendations where
  entries := (result.members.filterMap entry?).mergeSort fun a b => a.1.index ≤ b.1.index
  hierarchy := ((result.get? Scope.hierarchyTable).bind rows?).getD []

def items (r : Recommendations) (category : Category) : List Item :=
  ((r.entries.find? (·.1 == category)).map (·.2)).getD []

def item? (r : Recommendations) (category : Category) (index : Nat) : Option Item :=
  (r.items category)[index]?

/-- The first row of the hierarchy. -/
def superclass? (r : Recommendations) : Option Item := r.hierarchy.head?

def length (r : Recommendations) : Nat := (r.entries.flatMap (·.2)).length

def isEmpty (r : Recommendations) : Bool := r.length == 0

end Recommendations

end CoinQuery
