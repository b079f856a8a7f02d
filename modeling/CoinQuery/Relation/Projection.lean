import CoinQuery.Relation.Token
import CoinQuery.Text.Blank

/-!
# What a relation looks like

A relation is shown as a canonical text and as a row of visual nodes. Neither is stored: both are
computed from the tokens and the set of coins. A reference shows the label its coin has now, or
`C?` when the coin has left the set.

A visual node comes back from the editor as a list of classes and a text. `VisualNode.ofParts?`
makes a node of it again, with its label unbound.
-/

namespace CoinQuery

/-- What is shown for a coin that has left the set. -/
def staleLabel : String := "C?"

def Reference.text (coins : CoinSet) : Reference → String
  | .coin id => (coins.labelOf? id).getD staleLabel
  | .label n => Coin.label n

def Token.text (coins : CoinSet) : Token → String
  | .ref r => r.text coins
  | .op o => o.text

/-- The canonical text. -/
def Relation.text (r : Relation) (coins : CoinSet) : String :=
  String.join (r.map (Token.text coins))

/-! ## Visual nodes -/

structure VisualNode where
  token : Token
  /-- The label of a reference, or the glyph of an operator. -/
  text : String
deriving DecidableEq

namespace VisualNode

def ofToken (coins : CoinSet) (t : Token) : VisualNode :=
  match t with
  | .ref r => ⟨t, r.text coins⟩
  | .op o => ⟨t, o.glyph⟩

def cssClass (n : VisualNode) : String :=
  match n.token with
  | .ref _ => "id"
  | .op o => o.cssClass

def isStale (n : VisualNode) : Bool :=
  match n.token with
  | .ref _ => n.text == staleLabel
  | .op _ => false

def markup (n : VisualNode) : String :=
  match n.token with
  | .ref _ => "<span contenteditable=\"false\" class=\"id\">" ++ n.text ++ "</span>"
  | .op o => "<span contenteditable=\"false\" class=\"op " ++ o.cssClass ++ "\">&nbsp;</span>"

/-- The node an edited element stands for. The class `id` makes it a reference, whose text must be a
label; otherwise the first class of an operator decides, and the text does not matter. -/
def ofParts? (classes text : String) : Option VisualNode :=
  let classes := Text.words classes
  if classes.contains "id" then
    (Coin.labelPosition? (Text.trim text)).map fun n => ⟨.label n, Coin.label n⟩
  else (classes.findSome? Operator.ofClass?).map fun o => ⟨.op o, o.glyph⟩

/-- What a node adds to the canonical text. -/
def canonicalText (n : VisualNode) : String :=
  match n.token with
  | .ref _ => n.text
  | .op o => o.text

/-- The canonical text read off a row of nodes. -/
def textOf (nodes : List VisualNode) : String := String.join (nodes.map canonicalText)

end VisualNode

/-- The row of nodes, one for each token. -/
def Relation.visual (r : Relation) (coins : CoinSet) : List VisualNode :=
  r.map (VisualNode.ofToken coins)

end CoinQuery
