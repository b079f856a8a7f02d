import CoinQuery.Coin.Category
import CoinQuery.Coin.Side

/-!
# Coin descriptions

One side of a coin is described by descriptors, which are rows picked from recommendation tables,
and by keywords, each of which may be negated. Both lists keep the order of entry. A `Draft` is a
description of both sides.

Every type here has a portable form: `toJson` writes it, and `ofJson?` reads it back. The roles in
which descriptors are shown follow from their order and are not stored.
-/

namespace CoinQuery

/-! ## Items -/

/-- A row of a recommendation table. Few of its columns mean anything here: `found_in_column` names
the column that holds the text to show, `link` holds an address, and the `Cat_` columns hold
classes. -/
structure Item where
  fields : Json.Fields
deriving Inhabited

namespace Item

/-- The columns with the classes of an item, the most general first. -/
def classColumns : List String := ["Cat_I", "Cat_II", "Cat_III", "Cat_IV", "Cat_V"]

def displayName? (item : Item) : Option String := do
  let column ← item.fields.text? "found_in_column"
  item.fields.text? column

def link? (item : Item) : Option String := item.fields.text? "link"

def classes (item : Item) : List String := classColumns.filterMap item.fields.text?

def toJson (item : Item) : Json := item.fields.toJson

def ofJson? (j : Json) : Option Item := (Json.Fields.ofJson? j).map Item.mk

theorem ofJson?_toJson (item : Item) : ofJson? item.toJson = some item := by
  simp [ofJson?, toJson, Json.Fields.ofJson?_toJson]

end Item

/-! ## Descriptors and keywords -/

structure Descriptor where
  category : Category
  item : Item
deriving Inhabited

namespace Descriptor

def toJson (d : Descriptor) : Json :=
  .object [("category", d.category.toJson), ("item", d.item.toJson)]

def ofJson? : Json → Option Descriptor :=
  Json.pair? "category" "item" (·.required Category.ofJson?) (·.required Item.ofJson?) mk

end Descriptor

structure Keyword where
  text : String
  negated : Bool
deriving DecidableEq, Inhabited

namespace Keyword

def toJson (k : Keyword) : Json := .object [("text", .string k.text), ("negated", .bool k.negated)]

def ofJson? : Json → Option Keyword :=
  Json.pair? "text" "negated" (·.required Json.string?) (·.required Json.bool?) mk

/-- Flips the first keyword with this text; the flag it has then comes first. -/
def toggleFirst? (text : String) : List Keyword → Option (Bool × List Keyword)
  | [] => none
  | k :: rest =>
    if k.text = text then some (!k.negated, { k with negated := !k.negated } :: rest)
    else (toggleFirst? text rest).map fun (negated, rest) => (negated, k :: rest)

/-- Takes out the first keyword with this text. -/
def removeFirst? (text : String) : List Keyword → Option (Keyword × List Keyword)
  | [] => none
  | k :: rest =>
    if k.text = text then some (k, rest)
    else (removeFirst? text rest).map fun (removed, rest) => (removed, k :: rest)

end Keyword

/-! ## Roles -/

/-- The part a descriptor plays on its side. -/
inductive Role
  | subject
  | object
  | relation
deriving DecidableEq

def Role.name : Role → String
  | subject => "Subject"
  | object => "Object"
  | relation => "Relation"

/-- Verbs are relations. The first other descriptor is the subject, unless one was `seen` before,
and all later ones are objects. -/
def Role.assign (seen : Bool) : List Descriptor → List Role
  | [] => []
  | d :: rest =>
    if d.category.isVerb then relation :: assign seen rest
    else (if seen then object else subject) :: assign true rest

/-! ## One side -/

structure SideDescription where
  descriptors : List Descriptor
  keywords : List Keyword
deriving Inhabited

namespace SideDescription

def empty : SideDescription := ⟨[], []⟩

def isEmpty (s : SideDescription) : Bool := s.descriptors.isEmpty && s.keywords.isEmpty

def roles (s : SideDescription) : List Role := Role.assign false s.descriptors

def addDescriptor (s : SideDescription) (d : Descriptor) : SideDescription :=
  { s with descriptors := s.descriptors ++ [d] }

def removeLastDescriptor (s : SideDescription) : Option Descriptor × SideDescription :=
  (s.descriptors.getLast?, { s with descriptors := s.descriptors.dropLast })

/-- Adds a keyword without the blanks around it; refused when nothing is left. -/
def addKeyword (s : SideDescription) (text : String) : Bool × SideDescription :=
  let text := Text.trim text
  if text = "" then (false, s) else (true, { s with keywords := s.keywords ++ [⟨text, false⟩] })

/-- Flips the first keyword that is `text` without the blanks around it; says what it is then. -/
def toggleKeyword (s : SideDescription) (text : String) : Option Bool × SideDescription :=
  match Keyword.toggleFirst? (Text.trim text) s.keywords with
  | some (negated, keywords) => (some negated, { s with keywords })
  | none => (none, s)

/-- Takes out the first keyword that is `text` without the blanks around it. -/
def removeKeyword (s : SideDescription) (text : String) : Option Keyword × SideDescription :=
  match Keyword.removeFirst? (Text.trim text) s.keywords with
  | some (removed, keywords) => (some removed, { s with keywords })
  | none => (none, s)

def toJson (s : SideDescription) : Json :=
  .object [("coin", .array (s.descriptors.map Descriptor.toJson)),
    ("keywords", .array (s.keywords.map Keyword.toJson))]

def ofJson? : Json → Option SideDescription :=
  Json.pair? "coin" "keywords" (·.defaulted [] (Json.list? Descriptor.ofJson?))
    (·.defaulted [] (Json.list? Keyword.ofJson?)) mk

end SideDescription

/-! ## Both sides -/

abbrev Draft := Sides SideDescription

namespace Draft

def empty : Draft := .uniform .empty

def isEmpty (d : Draft) : Bool := d.obverse.isEmpty && d.reverse.isEmpty

def toJson (d : Draft) : Json :=
  .object [("obverse", d.obverse.toJson), ("reverse", d.reverse.toJson)]

def ofJson? : Json → Option Draft :=
  Json.pair? "obverse" "reverse" (·.required SideDescription.ofJson?)
    (·.required SideDescription.ofJson?) Sides.mk

end Draft

end CoinQuery
