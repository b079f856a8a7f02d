import CoinQuery.Proofs.Relation.Gap

/-!
# Pruning rows

For a relation that is written from a row, pruning has a second description, by recursion on the row
(`Row.pruned`): a reference survives unless it is stale, a negation when its operand survives, and a
group unless it held something and nothing of that survives.  The operands of a row that survive
keep what stood in front of them, save that an operand loses its operator when the one before it is
gone and had no operator to lose instead.

The pass over the tokens knows nothing of the row.  The link is `Relation.resume`: where the pass
stands once it is through the tokens of an operand, behind what is left of it or at the gap that is
left.  `Row.Operand.prunedFrom_tokens` holds for an operand between any tokens, and
`Row.prunedFrom_tokens` for a row that is all of a relation or of a group.

Seen in this way, pruning does not depend on the order in which references become stale
(`Row.pruned_bind_pruned`).  With `Relation.Clean.exists_row` that holds for all relations without
structural issues (`Relation.Clean.prune_prune`).
-/

namespace CoinQuery

/-! ## Pruned rows -/

namespace Row.Links

/-- The first operand of what is left loses what stands in front of it. -/
def unlink : Links → Links
  | .nil => .nil
  | .cons _ operand rest => .cons none operand rest

/-- The first operand of what is left begins a row. -/
def promote : Links → Option Row
  | .nil => none
  | .cons _ operand rest => some (.cons operand rest)

/-- What follows an operand that is gone: an operator in front of it goes with it, and the next one
stays. -/
def closeUp (link : Option Connective) (rest : Links) : Links :=
  if link.isSome then rest else rest.unlink

lemma unlink_unlink (links : Links) : links.unlink.unlink = links.unlink := by
  cases links <;> rfl

lemma promote_unlink (links : Links) : links.unlink.promote = links.promote := by
  cases links <;> rfl

lemma promote_closeUp (link : Option Connective) (rest : Links) :
    (closeUp link rest).promote = rest.promote := by
  cases link with
  | none => exact rest.promote_unlink
  | some c => rfl

end Row.Links

mutual

/-- What is left of an operand without its stale references, if anything is. -/
def Row.Operand.pruned (coins : CoinSet) : Row.Operand → Option Row.Operand
  | .ref target => if (Token.ref target).isStale coins then none else some (.ref target)
  | .not operand => (operand.pruned coins).map .not
  | .group inner => (inner.pruned coins).map .group

/-- What is left of a row; there is nothing to lose in an empty one. -/
def Row.pruned (coins : CoinSet) : Row → Option Row
  | .empty => some .empty
  | .cons first rest =>
    match first.pruned coins with
    | some first => some (.cons first (rest.pruned coins))
    | none => (rest.pruned coins).promote

def Row.Links.pruned (coins : CoinSet) : Row.Links → Row.Links
  | .nil => .nil
  | .cons link operand rest =>
    match operand.pruned coins with
    | some operand => .cons link operand (rest.pruned coins)
    | none => .closeUp link (rest.pruned coins)

end

/-! ## The pass through a row -/

open CoinQuery.Relation

variable {coins : CoinSet}

/-- A gap behind an operand takes from the row that goes on there the operator in front of it. -/
lemma Row.Links.resume_promote (links : Row.Links) {before after : Relation}
    (h : EndsOperand before) (hafter : Closes after) :
    resume coins before after (links.promote.map Row.tokens) =
      prunedFrom coins (links.unlink.tokens.reverse ++ before) after := by
  cases links with
  | nil =>
    simp only [Row.Links.promote, Option.map_none, resume, closeGap_last h hafter]
    rfl
  | cons link operand rest => rfl

mutual

lemma Row.Operand.prunedFrom_tokens : ∀ (t : Row.Operand) (before after : Relation),
    prunedFrom coins before (t.tokens ++ after) =
      resume coins before after ((t.pruned coins).map Row.Operand.tokens)
  | .ref target, before, after => by
    by_cases hstale : (Token.ref target).isStale coins = true
    · rw [Row.Operand.tokens, List.singleton_append, prunedFrom_stale hstale, Row.Operand.pruned,
        if_pos hstale]
      rfl
    · rw [Row.Operand.tokens, List.singleton_append, prunedFrom_live (by simpa using hstale),
        Row.Operand.pruned, if_neg hstale]
      rfl
  | .not operand, before, after => by
    rw [Row.Operand.tokens, List.cons_append, prunedFrom_live rfl, operand.prunedFrom_tokens,
      Row.Operand.pruned]
    cases operand.pruned coins with
    | none => simp only [Option.map_none, resume, closeGap_not]
    | some left => simp [resume, Row.Operand.tokens]
  | .group inner, before, after => by
    rw [Row.Operand.tokens, List.cons_append, prunedFrom_live rfl, List.append_assoc,
      List.singleton_append, inner.prunedFrom_tokens _ _ (Or.inr ⟨before, after, rfl⟩),
      Row.Operand.pruned]
    cases inner.pruned coins with
    | none =>
      -- the gap meets both parentheses and takes the group out as an operand
      simp only [Option.map_none, resume, closeGap_group]
    | some left =>
      simp only [Option.map_some, resume]
      rw [prunedFrom_live rfl]
      simp [Row.Operand.tokens]

lemma Row.prunedFrom_tokens : ∀ (row : Row) (before after : Relation), Encloses before after →
    prunedFrom coins before (row.tokens ++ after) =
      resume coins before after ((row.pruned coins).map Row.tokens)
  | .empty, before, after, _ => rfl
  | .cons first rest, before, after, h => by
    rw [Row.tokens, List.append_assoc, first.prunedFrom_tokens, Row.pruned]
    cases first.pruned coins with
    | none => exact rest.prunedFrom_closeGap before after (Or.inl h.opens) h.closes
    | some left =>
      simp only [Option.map_some, resume]
      rw [rest.prunedFrom_tokens _ _ (endsOperand_append left before) h.closes]
      simp [Row.tokens]

/-- Behind an operand that is left, the pass leaves what is left of the row. -/
lemma Row.Links.prunedFrom_tokens : ∀ (links : Row.Links) (before after : Relation),
    EndsOperand before → Closes after →
    prunedFrom coins before (links.tokens ++ after) =
      prunedFrom coins ((links.pruned coins).tokens.reverse ++ before) after
  | .nil, before, after, _, _ => rfl
  | .cons (some c) operand rest, before, after, h, hafter => by
    have hlink : (Row.linkTokens (some c) ++ (operand.tokens ++ rest.tokens)) ++ after =
      .op c.operator :: (operand.tokens ++ (rest.tokens ++ after)) := by simp [Row.linkTokens]
    rw [Row.Links.tokens, hlink, prunedFrom_live rfl, operand.prunedFrom_tokens, Row.Links.pruned]
    cases operand.pruned coins with
    | none =>
      -- the gap takes the operator in front of it away, so the row goes on as if from here
      simp only [Option.map_none, resume, closeGap_connective h]
      exact rest.prunedFrom_tokens before after h hafter
    | some left =>
      simp only [Option.map_some, resume]
      rw [rest.prunedFrom_tokens _ _ (endsOperand_append left _) hafter]
      simp [Row.Links.tokens, Row.linkTokens]
  | .cons none operand rest, before, after, h, hafter => by
    have hlink : (Row.linkTokens none ++ (operand.tokens ++ rest.tokens)) ++ after =
      operand.tokens ++ (rest.tokens ++ after) := by simp [Row.linkTokens]
    rw [Row.Links.tokens, hlink, operand.prunedFrom_tokens, Row.Links.pruned]
    cases operand.pruned coins with
    | none =>
      -- the gap may take the next operator away, so the row goes on as if at its beginning
      have hgap := rest.prunedFrom_closeGap before after (Or.inr h) hafter
      exact hgap.trans (Row.Links.resume_promote _ h hafter)
    | some left =>
      simp only [Option.map_some, resume]
      rw [rest.prunedFrom_tokens _ _ (endsOperand_append left _) hafter]
      simp [Row.Links.tokens, Row.linkTokens]

/-- At the gap of the operands in front, the next operand loses what stands in front of it and takes
their place. -/
lemma Row.Links.prunedFrom_closeGap : ∀ (links : Row.Links) (before after : Relation),
    Opens before ∨ EndsOperand before → Closes after →
    prunedFrom coins (closeGap before (links.tokens ++ after)).1
        (closeGap before (links.tokens ++ after)).2 =
      resume coins before after ((links.pruned coins).promote.map Row.tokens)
  | .nil, before, after, _, _ => rfl
  | .cons link operand rest, before, after, h, hafter => by
    rw [Row.Links.tokens, List.append_assoc, List.append_assoc, closeGap_link h,
      operand.prunedFrom_tokens, Row.Links.pruned]
    cases operand.pruned coins with
    | none =>
      rw [Row.Links.promote_closeUp]
      exact rest.prunedFrom_closeGap before after h hafter
    | some left =>
      simp only [Option.map_some, resume]
      rw [rest.prunedFrom_tokens _ _ (endsOperand_append left before) hafter]
      simp [Row.Links.promote, Row.tokens]

end

/-- What is left of the tokens of a row are the tokens of what is left of it, or none. -/
lemma Row.prune_eq (row : Row) (coins : CoinSet) :
    row.tokens.prune coins = ((row.pruned coins).map Row.tokens).getD [] := by
  have hpass : prunedFrom coins [] (row.tokens ++ []) = _ :=
    row.prunedFrom_tokens [] [] (Or.inl rfl)
  rw [List.append_nil, ← prune_eq_prunedFrom] at hpass
  rw [hpass]
  cases row.pruned coins with
  | none => simp [resume, closeGap, dropOperator, dropBinary]
  | some left => simp [resume]

/-! ## Pruning twice -/

namespace Row

lemma Links.pruned_unlink (links : Links) :
    links.unlink.pruned coins = (links.pruned coins).unlink := by
  match links with
  | .nil => rfl
  | .cons link operand rest =>
    rw [Links.unlink, Links.pruned, Links.pruned]
    cases operand.pruned coins with
    | none =>
      cases link with
      | none => exact (Links.unlink_unlink _).symm
      | some c => rfl
    | some left => rfl

lemma Links.pruned_closeUp (link : Option Connective) (rest : Links) :
    (Links.closeUp link rest).pruned coins = .closeUp link (rest.pruned coins) := by
  cases link with
  | none => exact rest.pruned_unlink
  | some c => rfl

lemma Links.promote_pruned (links : Links) :
    (links.pruned coins).promote = links.promote.bind (Row.pruned coins) := by
  match links with
  | .nil => rfl
  | .cons link operand rest =>
    rw [Links.pruned, Links.promote, Option.bind_some, Row.pruned]
    cases operand.pruned coins with
    | none => exact Links.promote_closeUp link _
    | some left => rfl

end Row

/-- The coins that are in both sets. -/
def CoinSet.InBoth (coins first second : CoinSet) : Prop :=
  ∀ id, coins.holds id = (first.holds id && second.holds id)

lemma CoinSet.InBoth.isStale {first second : CoinSet} (h : coins.InBoth first second) (t : Token) :
    t.isStale coins = (t.isStale first || t.isStale second) := by
  match t with
  | .ref (.coin id) => simp [Token.isStale, h id]
  | .ref (.label n) => rfl
  | .op o => rfl

variable {first second : CoinSet}

mutual

lemma Row.Operand.pruned_bind_pruned (h : coins.InBoth first second) : ∀ t : Row.Operand,
    (t.pruned first).bind (Row.Operand.pruned second) = t.pruned coins
  | .ref target => by
    rw [Row.Operand.pruned, Row.Operand.pruned, h.isStale]
    by_cases hstale : (Token.ref target).isStale first = true
    · simp [hstale]
    · simp [hstale, Row.Operand.pruned]
  | .not operand => by
    rw [Row.Operand.pruned, Row.Operand.pruned, ← operand.pruned_bind_pruned h]
    cases operand.pruned first <;> rfl
  | .group inner => by
    rw [Row.Operand.pruned, Row.Operand.pruned, ← inner.pruned_bind_pruned h]
    cases inner.pruned first <;> rfl

lemma Row.pruned_bind_pruned (h : coins.InBoth first second) : ∀ row : Row,
    (row.pruned first).bind (Row.pruned second) = row.pruned coins
  | .empty => rfl
  | .cons operand rest => by
    rw [Row.pruned, Row.pruned, ← operand.pruned_bind_pruned h, ← rest.pruned_pruned h]
    cases operand.pruned first with
    | none => exact (rest.pruned first).promote_pruned.symm
    | some left => rfl

lemma Row.Links.pruned_pruned (h : coins.InBoth first second) : ∀ links : Row.Links,
    (links.pruned first).pruned second = links.pruned coins
  | .nil => rfl
  | .cons link operand rest => by
    rw [Row.Links.pruned, Row.Links.pruned, ← operand.pruned_bind_pruned h,
      ← rest.pruned_pruned h]
    cases operand.pruned first with
    | none => exact Row.Links.pruned_closeUp link _
    | some left => rfl

end

/-- **Pruning twice is pruning once.**  Where parentheses match and no operator lacks an operand, it
does not matter which references become stale first, or whether all do at once. -/
theorem Relation.Clean.prune_prune {r : Relation} {any : CoinSet} (hclean : r.Clean any)
    (h : coins.InBoth first second) : (r.prune first).prune second = r.prune coins := by
  obtain ⟨row, rfl⟩ := hclean.exists_row
  rw [row.prune_eq, row.prune_eq, ← row.pruned_bind_pruned h]
  cases row.pruned first with
  | none => exact prunedFrom_nil []
  | some left => exact left.prune_eq second

end CoinQuery
