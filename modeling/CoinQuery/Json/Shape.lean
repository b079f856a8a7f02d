import CoinQuery.Json.Basic
import CoinQuery.Text.Numeral

/-!
# Reading structures

A structure with named fields is spelled as an object, or as an array of its fields in their order.
In an object other members are passed over and no field may be named twice. What a field makes of
standing nowhere is for its kind to say: a required field must be there; a defaulted field takes its
default; an optional field is none, but only where an object leaves it out, not where an array ends
before it. A choice among names is spelled as the name, or as an object that gives it null.
-/

namespace CoinQuery.Json

/-- What the spelling of a structure says about one field. -/
inductive Slot
  | given (value : Json)
  /-- The object does not name the field. -/
  | omitted
  /-- The array ends before the field. -/
  | cutOff

namespace Slot

def required (slot : Slot) (read : Json → Option α) : Option α :=
  match slot with
  | given j => read j
  | omitted | cutOff => none

def defaulted (slot : Slot) (default : α) (read : Json → Option α) : Option α :=
  match slot with
  | given j => read j
  | omitted | cutOff => some default

def optional (slot : Slot) (read : Json → Option α) : Option (Option α) :=
  match slot with
  | given null => some none
  | given j => (read j).map some
  | omitted => some none
  | cutOff => none

end Slot

/-- The slot of one field of an object; none if the object names it twice. -/
def memberSlot? (members : List (String × Json)) (name : String) : Option Slot :=
  match members.filter (·.1 == name) with
  | [] => some .omitted
  | [m] => some (.given m.2)
  | _ :: _ :: _ => none

/-- The slots of a structure with the fields `names`, one for each. -/
def slots? (names : List String) : Json → Option (List Slot)
  | object members => names.mapM (memberSlot? members)
  | array items =>
    if items.length ≤ names.length then
      some (items.map .given ++ List.replicate (names.length - items.length) .cutOff)
    else none
  | _ => none

/-- Reads a structure with two fields. -/
def pair? (first second : String) (readFirst : Slot → Option α) (readSecond : Slot → Option β)
    (make : α → β → γ) (j : Json) : Option γ := do
  match ← j.slots? [first, second] with
  | [a, b] => some (make (← readFirst a) (← readSecond b))
  | _ => none

/-- The name a choice is spelled with. -/
def choice? : Json → Option String
  | string name => some name
  | object [(name, null)] => some name
  | _ => none

def bool? : Json → Option Bool
  | bool b => some b
  | _ => none

/-- A count: an integer that fits an unsigned 64-bit word. -/
def word? : Json → Option Nat
  | number (.integer i) => if 0 ≤ i && i < Text.wordLimit then some i.toNat else none
  | _ => none

def list? (read : Json → Option α) : Json → Option (List α)
  | array items => items.mapM read
  | _ => none

end CoinQuery.Json
