import CoinQuery.Relation.Lexeme
import CoinQuery.Relation.Projection

/-!
# Binding labels to coins

Binding turns every label of a coin in the set into a reference to that coin. From then on the
reference follows the coin: removing an earlier coin changes the label that is shown, never the coin
that is meant. Every way of editing a relation ends in binding it.
-/

namespace CoinQuery

/-- A label of a coin becomes a reference to it. -/
def Token.bind (coins : CoinSet) : Token → Token
  | .ref (.label n) =>
    match coins.idAt? n with
    | some id => .coin id
    | none => .label n
  | t => t

/-- Whether binding changes a token. -/
def Token.isBindable (coins : CoinSet) : Token → Bool
  | .ref (.label n) => (coins.idAt? n).isSome
  | _ => false

namespace Relation

def bind (r : Relation) (coins : CoinSet) : Relation := r.map (Token.bind coins)

/-- How many labels binding turns into references. -/
def bindCount (r : Relation) (coins : CoinSet) : Nat := r.countP (Token.isBindable coins)

/-! ## Edits -/

def parse (text : String) (coins : CoinSet) : Relation := (ofText text).bind coins

def ofVisual (nodes : List VisualNode) (coins : CoinSet) : Relation :=
  bind (nodes.map VisualNode.token) coins

def push (r : Relation) (t : Token) (coins : CoinSet) : Relation := bind (r ++ [t]) coins

/-- Inserts before `index`; refused past the end. -/
def insert? (r : Relation) (index : Nat) (t : Token) (coins : CoinSet) : Option Relation :=
  if index ≤ r.length then some (bind (r.take index ++ t :: r.drop index) coins) else none

/-- Takes out the token at `index`; refused past the end. -/
def remove? (r : Relation) (index : Nat) : Option (Token × Relation) :=
  r[index]?.map fun t => (t, r.eraseIdx index)

/-- Follows a change of the set: a set that is not empty puts its last coin at the end, behind `OR`
unless the relation is empty; an empty set empties the relation. -/
def followSize (r : Relation) (coins : CoinSet) : Relation :=
  match coins.getLast? with
  | none => []
  | some last => if r = [] then [.coin last.id] else r ++ [.op .or, .coin last.id]

end Relation

end CoinQuery
