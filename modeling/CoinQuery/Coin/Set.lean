import CoinQuery.Coin.Description
import CoinQuery.Text.Numeral

/-!
# Coins and the set of queried coins

A coin is addressed in two ways. Its *id* is given when it is struck and never changes. Its *label*
is `C` with its place in the set, counted from one, and goes down when a coin before it is removed.
-/

namespace CoinQuery

structure CoinId where
  raw : Nat
deriving DecidableEq, Inhabited

def CoinId.text (id : CoinId) : String := "#" ++ toString id.raw

structure Coin where
  id : CoinId
  sides : Draft

namespace Coin

/-- The label of the coin at this place, counted from one. -/
def label (position : Nat) : String := "C" ++ toString position

/-- The place a label names: `C` and ASCII digits, for a number that fits a word. -/
def labelPosition? (label : String) : Option Nat :=
  match label.toList with
  | 'C' :: digits => Text.wordOfDigits? digits
  | _ => none

/-- The portable form does not tell the id. -/
def toJson (c : Coin) : Json := c.sides.toJson

end Coin

/-- The coins in the order in which they were added. -/
abbrev CoinSet := List Coin

namespace CoinSet

/-- Where the coin with this id stands, counted from zero. -/
def position? (coins : CoinSet) (id : CoinId) : Option Nat := coins.findIdx? (·.id = id)

def holds (coins : CoinSet) (id : CoinId) : Bool := (coins.position? id).isSome

def labelOf? (coins : CoinSet) (id : CoinId) : Option String :=
  (coins.position? id).map fun p => Coin.label (p + 1)

/-- The id of the coin labelled with `position`; no coin has the label `C0`. -/
def idAt? (coins : CoinSet) : (position : Nat) → Option CoinId
  | 0 => none
  | i + 1 => coins[i]?.map Coin.id

def toJson (coins : CoinSet) : Json := .array (coins.map Coin.toJson)

end CoinSet

end CoinQuery
