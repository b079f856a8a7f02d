import CoinQuery.Relation.Projection

/-!
# Diagnosing relations

A relation is built one token at a time and is sent to be compiled as it is, so nothing is refused
here. A diagnosis says what is wrong: parentheses that do not match, operators without an operand,
labels that name no coin and references to coins that have left the set.
-/

namespace CoinQuery

inductive Issue
  | unmatchedClose (index : Nat)
  | unclosedOpen (count : Nat)
  | missingOperand (index : Nat)
  | danglingNot (index : Nat)
  | unresolvedLabel (position : Nat)
  | staleReference (id : CoinId)
deriving DecidableEq

def Issue.message : Issue → String
  | unmatchedClose i => "unmatched ')' at token " ++ toString i
  | unclosedOpen n => toString n ++ " unclosed '('"
  | missingOperand i => "operator at token " ++ toString i ++ " is missing an operand"
  | danglingNot i => "NOT at token " ++ toString i ++ " has nothing to negate"
  | unresolvedLabel n => Coin.label n ++ " does not name a queried coin"
  | staleReference id => "reference to removed coin " ++ id.text

/-- Whether an operand can begin with a token. -/
def Token.startsOperand : Token → Bool
  | .ref _ | .op .openParen | .op .not => true
  | .op .and | .op .or | .op .closeParen => false

/-- Whether an operand can end with a token. -/
def Token.endsOperand : Token → Bool
  | .ref _ | .op .closeParen => true
  | .op .and | .op .or | .op .not | .op .openParen => false

namespace Relation

/-- The issue of one token, which stands at `index` between `previous` and `next` with `depth`
parentheses open. -/
def issueAt? (coins : CoinSet) (index depth : Nat) (previous next : Option Token) :
    Token → Option Issue
  | .op .openParen => none
  | .op .closeParen => if depth = 0 then some (.unmatchedClose index) else none
  | .op .and | .op .or =>
    if previous.any Token.endsOperand && next.any Token.startsOperand then none
    else some (.missingOperand index)
  | .op .not => if next.any Token.startsOperand then none else some (.danglingNot index)
  | .ref (.label n) => some (.unresolvedLabel n)
  | .ref (.coin id) => if coins.holds id then none else some (.staleReference id)

/-- How many parentheses are open behind a token. -/
def depthBehind (depth : Nat) : Token → Nat
  | .op .openParen => depth + 1
  | .op .closeParen => depth - 1
  | _ => depth

def diagnoseFrom (coins : CoinSet) (index depth : Nat) (previous : Option Token) :
    Relation → List Issue
  | [] => if depth = 0 then [] else [.unclosedOpen depth]
  | t :: rest =>
    let later := diagnoseFrom coins (index + 1) (depthBehind depth t) (some t) rest
    match issueAt? coins index depth previous rest.head? t with
    | some issue => issue :: later
    | none => later

/-- What is wrong with a relation, in the order of its tokens. -/
def diagnose (r : Relation) (coins : CoinSet) : List Issue := diagnoseFrom coins 0 0 none r

end Relation

end CoinQuery
