import CoinQuery.Error
import CoinQuery.Json.Shape
import CoinQuery.Text.Blank

/-!
# Descriptor categories

One category for each recommendation table. Tables are named in requests and payloads; people may
also use the bare name of a category.
-/

namespace CoinQuery

inductive Category
  | animal
  | object
  | person
  | plant
  | verb
deriving DecidableEq, Inhabited

namespace Category

def all : List Category := [animal, object, person, plant, verb]

/-- The place of a category in `all`, by which lists of categories are ordered. -/
def index : Category → Nat
  | animal => 0
  | object => 1
  | person => 2
  | plant => 3
  | verb => 4

/-- The short label of a recommendation. -/
def label : Category → String
  | animal => "animal"
  | object => "obj"
  | person => "person"
  | plant => "plant"
  | verb => "verb"

def table (c : Category) : String := "list_" ++ c.label

/-- The symbol drawn on a descriptor. -/
def icon : Category → String
  | animal => "pets"
  | object => "category"
  | person => "accessibility_new"
  | plant => "psychiatry"
  | verb => "keyboard_double_arrow_right"

def isVerb (c : Category) : Bool := c == verb

/-- The category that a trimmed name in lower-case letters stands for. -/
def ofName? : String → Option Category
  | "animal" | "list_animal" => some animal
  | "obj" | "object" | "list_obj" | "list_object" => some object
  | "person" | "list_person" => some person
  | "plant" | "list_plant" => some plant
  | "verb" | "list_verb" => some verb
  | _ => none

/-- Blanks around a name and the case of its ASCII letters do not matter. -/
def named (name : String) : Except QueryError Category :=
  match ofName? (Text.trim name).toLower with
  | some c => .ok c
  | none => .error (.unknownCategory name)

def toJson (c : Category) : Json := .string c.table

/-- In a payload only the table name itself stands for a category. -/
def ofJson? (j : Json) : Option Category := do
  let name ← j.choice?
  all.find? (·.table == name)

end Category

end CoinQuery
