import CoinQuery.Coin.Set

/-!
# Relations

A relation combines coins with operators: `(C1 OR C2) AND NOT C3`. It is a flat sequence of tokens,
and any sequence is a relation; whether it makes sense is a matter of diagnosis.

A reference names a coin by its id. Where no such coin was known when it was written, it keeps the
number of the label instead, until `bind` finds a coin with that label.
-/

namespace CoinQuery

inductive Operator
  | and
  | or
  | not
  | openParen
  | closeParen
deriving DecidableEq

namespace Operator

def all : List Operator := [and, or, not, openParen, closeParen]

def isBinary : Operator → Bool
  | and | or => true
  | not | openParen | closeParen => false

/-- The word or sign an operator is written with. -/
def word : Operator → String
  | and => "AND"
  | or => "OR"
  | not => "NOT"
  | openParen => "("
  | closeParen => ")"

/-- The canonical text: words stand between spaces, parentheses do not. -/
def text : Operator → String
  | and => " AND "
  | or => " OR "
  | not => " NOT "
  | openParen => "("
  | closeParen => ")"

/-- What is drawn for an operator. -/
def glyph : Operator → String
  | and => "∧"
  | or => "∨"
  | not => "¬"
  | openParen => "("
  | closeParen => ")"

/-- The class of the node drawn for an operator. -/
def cssClass : Operator → String
  | and => "and"
  | or => "or"
  | not => "not"
  | openParen => "p_open"
  | closeParen => "p_close"

def ofClass? (name : String) : Option Operator := all.find? (·.cssClass == name)

end Operator

inductive Reference
  | coin (id : CoinId)
  | label (position : Nat)
deriving DecidableEq

inductive Token
  | ref (target : Reference)
  | op (operator : Operator)
deriving DecidableEq

namespace Token

abbrev coin (id : CoinId) : Token := .ref (.coin id)

abbrev label (position : Nat) : Token := .ref (.label position)

def isBinary : Token → Bool
  | ref _ => false
  | op o => o.isBinary

/-- How a text spells a token. No text spells a reference to a coin, which is shown by its id. -/
def spelling : Token → String
  | ref (.coin id) => id.text
  | ref (.label n) => Coin.label n
  | op o => o.word

/-- Whether a token refers to a coin that is not in the set. -/
def isStale (coins : CoinSet) : Token → Bool
  | ref (.coin id) => !coins.holds id
  | _ => false

end Token

abbrev Relation := List Token

end CoinQuery
