import CoinQuery.Error
import CoinQuery.Json.Shape
import CoinQuery.Text.Blank

/-!
# The two sides of a coin

`Side` names a face, and `Sides` holds one value for each face: a description, an input field, a
list of recommendations. What is done to one side leaves the other as it is (`get_set_other`).
-/

namespace CoinQuery

inductive Side
  | obverse
  | reverse
deriving DecidableEq, Inhabited

namespace Side

def both : List Side := [obverse, reverse]

def name : Side → String
  | obverse => "obverse"
  | reverse => "reverse"

def ofName? : String → Option Side
  | "obverse" | "front" => some obverse
  | "reverse" | "back" => some reverse
  | _ => none

/-- Blanks around a name and the case of its ASCII letters do not matter. -/
def named (name : String) : Except QueryError Side :=
  match ofName? (Text.trim name).toLower with
  | some side => .ok side
  | none => .error (.unknownSide name)

def toJson (side : Side) : Json := .string side.name

def ofJson? (j : Json) : Option Side := do
  let name ← j.choice?
  both.find? (·.name == name)

end Side

/-- One value for each side. -/
structure Sides (α : Type) where
  obverse : α
  reverse : α
deriving DecidableEq

namespace Sides

def uniform (a : α) : Sides α := ⟨a, a⟩

def get (s : Sides α) : Side → α
  | .obverse => s.obverse
  | .reverse => s.reverse

def set (s : Sides α) (side : Side) (a : α) : Sides α :=
  match side with
  | .obverse => { s with obverse := a }
  | .reverse => { s with reverse := a }

def modify (s : Sides α) (side : Side) (f : α → α) : Sides α := s.set side (f (s.get side))

@[simp] theorem get_set_same (s : Sides α) (side : Side) (a : α) : (s.set side a).get side = a := by
  cases side <;> rfl

theorem get_set_other (s : Sides α) {side other : Side} (h : side ≠ other) (a : α) :
    (s.set side a).get other = s.get other := by
  cases side <;> cases other <;> simp_all [set, get]

theorem set_get_same (s : Sides α) (side : Side) : s.set side (s.get side) = s := by
  cases side <;> rfl

theorem set_comm (s : Sides α) {side other : Side} (h : side ≠ other) (a b : α) :
    (s.set side a).set other b = (s.set other b).set side a := by
  cases side <;> cases other <;> simp_all [set]

end Sides

end CoinQuery
