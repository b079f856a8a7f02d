import CoinQuery.Coin.Mint
import CoinQuery.Relation.Binding
import CoinQuery.Relation.Diagnosis

/-!
# Inspecting a relation text

An inspection shows what is made of a text that refers to so many coins: the tokens found in it, its
canonical and its visual form, and what is wrong with it. The coins are struck for the purpose and
have no description.
-/

namespace CoinQuery

/-- The greatest number of coins that are struck for an inspection. -/
def mostInspectedCoins : Nat := 10000

/-- `count` coins without a description. -/
def blankCoins (count : Nat) : CoinSet := (Mint.new.strikeMany count).1

structure Inspection where
  input : String
  coinCount : Nat
  lexemes : List Lexeme
  canonical : String
  visual : List VisualNode
  issues : List Issue

def inspect (text : String) (coinCount : Nat) : Except QueryError Inspection :=
  if mostInspectedCoins < coinCount then .error (.tooManyCoins coinCount mostInspectedCoins)
  else
    let coins := blankCoins coinCount
    let relation := Relation.parse text coins
    .ok {
      input := text
      coinCount := coinCount
      lexemes := lexemes text
      canonical := relation.text coins
      visual := relation.visual coins
      issues := relation.diagnose coins }

end CoinQuery
