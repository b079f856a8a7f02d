import CoinQuery.Proofs.Relation.PrunedRow

/-!
# Pruning expressions

For a relation that is written from an expression, pruning has a second description, by recursion on
the expression (`Expression.pruned`): a reference survives unless it is stale, a negation when its
operand survives, a group when something in it survives, and a chain keeps the operands that
survive, each behind the operator that stood in front of it, save that the first one loses its
operator.  `Expression.prune_tokens` says that pruning the tokens gives the tokens of the pruned
expression.

An expression is a row in which an operator stands between any two operands and no group is empty
(`Expression.row`), and pruning it is pruning that row (`Expression.pruned_row`).  So the pass over
the tokens is the one that `Row.prunedFrom_tokens` describes.
-/

namespace CoinQuery

/-! ## Pruned expressions -/

/-- The first operand of what is left loses the operator in front of it. -/
def Chain.promote : Chain → Option Expression
  | .nil => none
  | .cons _ operand rest => some (.chain operand rest)

mutual

/-- What is left of an operand without its stale references, if anything is. -/
def Operand.pruned (coins : CoinSet) : Operand → Option Operand
  | .ref target => if (Token.ref target).isStale coins then none else some (.ref target)
  | .not operand => (operand.pruned coins).map .not
  | .group inner => (inner.pruned coins).map .group

def Expression.pruned (coins : CoinSet) : Expression → Option Expression
  | .chain first rest =>
    match first.pruned coins with
    | some first => some (.chain first (rest.pruned coins))
    | none => (rest.pruned coins).promote

def Chain.pruned (coins : CoinSet) : Chain → Chain
  | .nil => .nil
  | .cons connective operand rest =>
    match operand.pruned coins with
    | some operand => .cons connective operand (rest.pruned coins)
    | none => rest.pruned coins

end

/-! ## The pass through an expression -/

open CoinQuery.Relation

variable {coins : CoinSet}

lemma Chain.promote_row (c : Chain) : c.row.promote = c.promote.map Expression.row := by
  cases c <;> rfl

mutual

lemma Operand.pruned_row : ∀ t : Operand,
    t.row.pruned coins = (t.pruned coins).map Operand.row
  | .ref target => by
    rw [Operand.row, Row.Operand.pruned, Operand.pruned]
    split <;> rfl
  | .not operand => by
    rw [Operand.row, Row.Operand.pruned, operand.pruned_row, Operand.pruned]
    simp [Function.comp_def, Operand.row]
  | .group inner => by
    rw [Operand.row, Row.Operand.pruned, inner.pruned_row, Operand.pruned]
    simp [Function.comp_def, Operand.row]

lemma Expression.pruned_row : ∀ e : Expression,
    e.row.pruned coins = (e.pruned coins).map Expression.row
  | .chain first rest => by
    rw [Expression.row, Row.pruned, first.pruned_row, rest.pruned_row, Expression.pruned]
    cases first.pruned coins with
    | none => exact (rest.pruned coins).promote_row
    | some left => rfl

lemma Chain.pruned_row : ∀ c : Chain, c.row.pruned coins = (c.pruned coins).row
  | .nil => rfl
  | .cons connective operand rest => by
    rw [Chain.row, Row.Links.pruned, operand.pruned_row, rest.pruned_row, Chain.pruned]
    cases operand.pruned coins <;> rfl

end

/-- The pass through an expression is the pass through its row. -/
lemma Expression.prunedFrom_tokens (e : Expression) (before after : Relation)
    (h : Encloses before after) :
    prunedFrom coins before (e.tokens ++ after) =
      resume coins before after ((e.pruned coins).map Expression.tokens) := by
  have hpass : prunedFrom coins before (e.row.tokens ++ after) = _ :=
    e.row.prunedFrom_tokens before after h
  rw [e.tokens_row, e.pruned_row, Option.map_map] at hpass
  rw [hpass]
  exact congrArg (resume coins before after)
    (congrArg (fun f => Option.map f (e.pruned coins)) (funext Expression.tokens_row))

/-! ## What is left of an expression -/

/-- Every reference of a relation is stale. -/
def Relation.AllStale (r : Relation) (coins : CoinSet) : Prop :=
  ∀ target, Token.ref target ∈ r → (Token.ref target).isStale coins = true

mutual

lemma Operand.pruned_eq_none_iff : ∀ t : Operand,
    t.pruned coins = none ↔ t.tokens.AllStale coins
  | .ref target => by simp [Operand.pruned, Operand.tokens, AllStale]
  | .not operand => by
    rw [Operand.pruned, Option.map_eq_none_iff, operand.pruned_eq_none_iff]
    simp [Operand.tokens, AllStale]
  | .group inner => by
    rw [Operand.pruned, Option.map_eq_none_iff, inner.pruned_eq_none_iff]
    simp [Operand.tokens, AllStale]

lemma Expression.pruned_eq_none_iff : ∀ e : Expression,
    e.pruned coins = none ↔ e.tokens.AllStale coins
  | .chain first rest => by
    have hfirst := first.pruned_eq_none_iff
    have hrest := rest.promote_pruned_eq_none_iff
    simp only [AllStale] at hfirst hrest ⊢
    simp only [Expression.tokens, List.mem_append, or_imp, forall_and, ← hfirst, ← hrest,
      Expression.pruned]
    cases first.pruned coins <;> simp

lemma Chain.promote_pruned_eq_none_iff : ∀ c : Chain,
    (c.pruned coins).promote = none ↔ c.tokens.AllStale coins
  | .nil => by simp [Chain.pruned, Chain.promote, Chain.tokens, AllStale]
  | .cons connective operand rest => by
    have hoperand := operand.pruned_eq_none_iff
    have hrest := rest.promote_pruned_eq_none_iff
    simp only [AllStale] at hoperand hrest ⊢
    simp only [Chain.tokens, List.mem_cons, List.mem_append, reduceCtorEq, false_or, or_imp,
      forall_and, ← hoperand, ← hrest, Chain.pruned]
    cases operand.pruned coins <;> simp [Chain.promote]

end

/-- **Pruning the tokens is pruning the expression.**  What is left of the tokens of an expression
are the tokens of what is left of it, or none.  So pruning a well-formed relation leaves it empty or
well-formed, and empty exactly when every reference in it is stale. -/
theorem Expression.prune_tokens (e : Expression) (coins : CoinSet) :
    e.tokens.prune coins = ((e.pruned coins).map Expression.tokens).getD [] ∧
    (e.tokens.prune coins = [] ∨ Relation.WellFormed (e.tokens.prune coins)) ∧
    (e.tokens.prune coins = [] ↔ e.tokens.AllStale coins) := by
  have hpass : prunedFrom coins [] (e.tokens ++ []) = _ := e.prunedFrom_tokens [] [] (Or.inl rfl)
  have hnone : e.pruned coins = none ↔ e.tokens.AllStale coins := e.pruned_eq_none_iff
  rw [List.append_nil, ← prune_eq_prunedFrom] at hpass
  cases hleft : e.pruned coins with
  | none =>
    have hempty : e.tokens.prune coins = [] := by
      rw [hpass, hleft]
      simp [resume, closeGap, dropOperator, dropBinary, prunedFrom_nil]
    exact ⟨hempty, Or.inl hempty, iff_of_true hempty (hnone.mp hleft)⟩
  | some left =>
    have htokens : e.tokens.prune coins = left.tokens := by
      rw [hpass, hleft]
      simp [resume, prunedFrom_nil]
    have hsome : ¬ e.tokens.AllStale coins := by simp [← hnone, hleft]
    refine ⟨htokens, Or.inr ⟨left, htokens.symm⟩, iff_of_false ?_ hsome⟩
    exact htokens ▸ left.tokens_ne_nil

end CoinQuery
