import CoinQuery.Coin.Side
import CoinQuery.Json.Writer

/-!
# Search records

A record is a free-form object. Some of its fields have a meaning of their own, and any field can be
sorted and grouped by: `Record.field` says what sorting and grouping see of it.
-/

namespace CoinQuery

/-- What sorting and grouping see of a field. -/
inductive FieldValue
  | missing
  | number (value : Binary64)
  | text (value : String)
deriving DecidableEq

namespace FieldValue

/-- Numbers are written out without an exponent, and whole numbers without a point. -/
def numberLayout : Layout where
  positional := fun _ => true
  wholePoint := false
  tie := .up

/-- The text form, empty for a missing value. -/
def asText : FieldValue → String
  | missing => ""
  | number x => numberLayout.text x
  | text s => s

def isBlank : FieldValue → Bool
  | missing => true
  | number _ => false
  | text s => s == ""

end FieldValue

structure Record where
  fields : Json.Fields
deriving Inhabited

namespace Record

def toJson (r : Record) : Json := r.fields.toJson

def ofJson? (j : Json) : Option Record := (Json.Fields.ofJson? j).map Record.mk

/-- Null is missing; truth values, arrays and objects are seen as their JSON text. -/
def field (r : Record) (name : String) : FieldValue :=
  match r.fields.get? name with
  | none | some .null => .missing
  | some (.number n) => .number n.toBinary64
  | some (.string s) => .text s
  | some j => .text j.text

def id? (r : Record) : Option String := r.fields.text? "id"

def kind? (r : Record) : Option String := r.fields.text? "type"

def url? (r : Record) : Option String := r.fields.text? "url"

def date? (r : Record) : Option String := r.fields.text? "date"

def location? (r : Record) : Option String := r.fields.text? "location"

def region? (r : Record) : Option String := r.fields.text? "region"

def category? (r : Record) : Option String := r.fields.text? "category"

def weight? (r : Record) : Option Binary64 := r.fields.number? "weight"

def maxDiameter? (r : Record) : Option Binary64 := r.fields.number? "maxDiameter"

def thumbnail? (r : Record) : Side → Option String
  | .obverse => r.fields.text? "thumbnailObverse"
  | .reverse => r.fields.text? "thumbnailReverse"

def description? (r : Record) : Side → Option String
  | .obverse => r.fields.text? "descriptionObverse"
  | .reverse => r.fields.text? "descriptionReverse"

end Record

end CoinQuery
