import CoinQuery.Relation.Token

/-!
# Pruning stale references

A reference to a coin that has left the set is stale. Pruning takes such references out, together
with the operators that served them alone: every `NOT` in front, one binary operator beside it, the
one before if there is one, and a pair of parentheses left with nothing between them, which is then
taken out as an operand itself.

    C1 OR C2           without C1   C2
    NOT C1 AND C2      without C1   C2
    (C1 AND C2) OR C3  without C1   (C2) OR C3
    C2 AND (C1)        without C1   C2

The pass goes through the tokens once, from left to right, and keeps the tokens passed in reverse.
No stale reference stands among these, so what closing a gap does to them is final.
-/

namespace CoinQuery.Relation

/-- The ids of the stale references, in order. -/
def stale (r : Relation) (coins : CoinSet) : List CoinId :=
  r.filterMap fun
    | .ref (.coin id) => if coins.holds id then none else some id
    | _ => none

/-! ## Closing a gap

A gap is what an operand leaves between the tokens `before` it, in reverse, and those `after` it. -/

def dropBinary : Relation → Relation
  | [] => []
  | t :: rest => if t.isBinary then rest else t :: rest

/-- Takes out one operator beside a gap, the one before if there is one. -/
def dropOperator : Relation → Relation → Relation × Relation
  | b :: before, after =>
    if b.isBinary then (before, after) else (b :: before, dropBinary after)
  | [], after => ([], dropBinary after)

theorem length_dropBinary_le (r : Relation) : (dropBinary r).length ≤ r.length := by
  cases r with
  | nil => simp [dropBinary]
  | cons t rest => simp only [dropBinary]; split <;> simp

theorem length_dropOperator_le (before after : Relation) :
    (dropOperator before after).2.length ≤ after.length := by
  cases before with
  | nil => simpa [dropOperator] using length_dropBinary_le after
  | cons b before =>
    simp only [dropOperator]
    split
    · exact Nat.le_refl _
    · exact length_dropBinary_le after

/-- What is left on both sides when a gap is closed. -/
def closeGap (before after : Relation) : Relation × Relation :=
  match _ : dropOperator (before.dropWhile (· = .op .not)) after with
  | (.op .openParen :: before', .op .closeParen :: after') => closeGap before' after'
  | gap => gap
termination_by after.length
decreasing_by
  rename_i h
  have := length_dropOperator_le (before.dropWhile (· = .op .not)) after
  rw [h] at this
  simp only [List.length_cons] at this
  omega

theorem length_closeGap_le (before after : Relation) :
    (closeGap before after).2.length ≤ after.length := by
  fun_induction closeGap before after with
  | case1 before after before' after' h ih =>
    have := length_dropOperator_le (before.dropWhile (· = .op .not)) after
    rw [h] at this
    simp only [List.length_cons] at this
    omega
  | case2 before after _ => exact length_dropOperator_le _ _

/-! ## Pruning -/

/-- Prunes `after`, the tokens before it being pruned and in reverse; counts what is taken out. -/
def pruneFrom (coins : CoinSet) (before after : Relation) (count : Nat) : Relation × Nat :=
  match after with
  | [] => (before.reverse, count)
  | t :: after =>
    if t.isStale coins then
      pruneFrom coins (closeGap before after).1 (closeGap before after).2 (count + 1)
    else pruneFrom coins (t :: before) after count
termination_by after.length
decreasing_by
  · exact Nat.lt_succ_of_le (length_closeGap_le before after)
  · simp

/-- The relation without its stale references. -/
def prune (r : Relation) (coins : CoinSet) : Relation := (pruneFrom coins [] r 0).1

/-- How many references pruning takes out. -/
def pruneCount (r : Relation) (coins : CoinSet) : Nat := (pruneFrom coins [] r 0).2

end CoinQuery.Relation
