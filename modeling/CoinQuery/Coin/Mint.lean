import CoinQuery.Coin.Set

/-!
# The mint

The mint holds the draft of the next coin and the id of the last one. Striking a coin takes the
draft as it is, gives it the next id and leaves an empty draft.
-/

namespace CoinQuery

structure Mint where
  draft : Draft
  lastId : Nat

namespace Mint

def new : Mint := ⟨Draft.empty, 0⟩

/-- Works on one side of the draft. -/
def onSide (m : Mint) (side : Side) (f : SideDescription → α × SideDescription) : α × Mint :=
  let (reply, description) := f (m.draft.get side)
  (reply, { m with draft := m.draft.set side description })

def addDescriptor (m : Mint) (side : Side) (d : Descriptor) : Mint :=
  { m with draft := m.draft.modify side (·.addDescriptor d) }

def removeLastDescriptor (m : Mint) (side : Side) : Option Descriptor × Mint :=
  m.onSide side (·.removeLastDescriptor)

def addKeyword (m : Mint) (side : Side) (text : String) : Bool × Mint :=
  m.onSide side (·.addKeyword text)

def toggleKeyword (m : Mint) (side : Side) (text : String) : Option Bool × Mint :=
  m.onSide side (·.toggleKeyword text)

def removeKeyword (m : Mint) (side : Side) (text : String) : Option Keyword × Mint :=
  m.onSide side (·.removeKeyword text)

def clear (m : Mint) : Mint := { m with draft := Draft.empty }

/-- Loads the sides of a coin into the draft; the coin itself stays what it is. -/
def load (m : Mint) (c : Coin) : Mint := { m with draft := c.sides }

def strike (m : Mint) : Coin × Mint :=
  (⟨⟨m.lastId + 1⟩, m.draft⟩, ⟨Draft.empty, m.lastId + 1⟩)

/-- Strikes coins one after the other, the first from the draft, the others without description. -/
def strikeMany (m : Mint) : (count : Nat) → CoinSet × Mint
  | 0 => ([], m)
  | n + 1 =>
    let (coin, m) := m.strike
    let (coins, m) := strikeMany m n
    (coin :: coins, m)

end Mint

end CoinQuery
