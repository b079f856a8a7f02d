import CoinQuery.Results.Record
import CoinQuery.Text.LetterCase

/-!
# The order of records

Records are sorted by one field, under a collation chosen for the whole list. If every value of the
field is a number or missing, numbers compare as numbers and missing values come first. A single
other value makes all of them compare as text in lower case. So a mixed column has a total order
too, and the sort is stable in both directions.
-/

namespace CoinQuery

inductive SortDirection
  | ascending
  | descending
deriving DecidableEq, Inhabited

namespace SortDirection

def all : List SortDirection := [ascending, descending]

def name : SortDirection → String
  | ascending => "ascending"
  | descending => "descending"

def ofName? : String → Option SortDirection
  | "ascending" | "asc" => some ascending
  | "descending" | "desc" => some descending
  | _ => none

/-- Blanks around a name and the case of its ASCII letters do not matter. -/
def named (name : String) : Except QueryError SortDirection :=
  match ofName? (Text.trim name).toLower with
  | some d => .ok d
  | none => .error (.unknownSortDirection name)

def apply : SortDirection → Ordering → Ordering
  | ascending, o => o
  | descending, o => o.swap

def toJson (d : SortDirection) : Json := .string d.name

def ofJson? (j : Json) : Option SortDirection := do
  let name ← j.choice?
  all.find? (·.name == name)

end SortDirection

/-! ## Collation -/

inductive Collation
  | numeric
  | text
deriving DecidableEq

namespace Collation

/-- Whether a value leaves its column numeric. -/
def isNumeric : FieldValue → Bool
  | .missing | .number _ => true
  | .text _ => false

def ofField (records : List Record) (field : String) : Collation :=
  if records.all fun r => isNumeric (r.field field) then numeric else text

def order : Collation → FieldValue → FieldValue → Ordering
  | numeric, .number x, .number y => x.order y
  | numeric, .number _, _ => .gt
  | numeric, _, .number _ => .lt
  | numeric, _, _ => .eq
  | text, a, b => compare (Text.lower a.asText) (Text.lower b.asText)

end Collation

/-! ## Sorting -/

structure SortSpec where
  field : String
  direction : SortDirection
deriving DecidableEq

namespace SortSpec

def order (spec : SortSpec) (collation : Collation) (a b : Record) : Ordering :=
  spec.direction.apply (collation.order (a.field spec.field) (b.field spec.field))

/-- Records that compare equal keep their order, in both directions. -/
def sort (spec : SortSpec) (records : List Record) : List Record :=
  let collation := Collation.ofField records spec.field
  records.mergeSort fun a b => spec.order collation a b != .gt

def toJson (spec : SortSpec) : Json :=
  .object [("field", .string spec.field), ("direction", spec.direction.toJson)]

def ofJson? : Json → Option SortSpec :=
  Json.pair? "field" "direction" (·.required Json.string?) (·.required SortDirection.ofJson?) mk

end SortSpec

end CoinQuery
