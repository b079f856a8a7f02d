import CoinQuery.Proofs.Relation.Pruning
import CoinQuery.Proofs.Relation.Row

/-!
# Gaps between operands

What is lost when a gap is closed depends on the tokens that meet there.  In a row of operands these
are known: what stands in front of the gap opens the row (`Relation.Opens`) or ends an operand of it
(`Relation.EndsOperand`), and what stands behind it closes the row (`Relation.Closes`) or goes on
with an operand, which may have an operator in front.

Two parentheses that meet at a gap are an empty group, and go in turn.  Otherwise what is lost is
one operator: the one in front of the gap (`Relation.closeGap_connective`), or else the one behind
it (`Relation.closeGap_link`).
-/

namespace CoinQuery.Relation

/-- Nothing stands in front, or a parenthesis opens. -/
def Opens (before : Relation) : Prop := before = [] ∨ ∃ outer, before = .op .openParen :: outer

/-- Nothing stands behind, or a parenthesis closes. -/
def Closes (after : Relation) : Prop := after = [] ∨ ∃ outer, after = .op .closeParen :: outer

/-- An operand ends with the token in front. -/
def EndsOperand (before : Relation) : Prop :=
  ∃ last outer, before = last :: outer ∧ last.endsOperand = true

/-- A row is around these tokens: all of a relation, or the inside of a group. -/
def Encloses (before after : Relation) : Prop :=
  (before, after) = ([], []) ∨
    ∃ outer behind, (before, after) = (.op .openParen :: outer, .op .closeParen :: behind)

lemma Encloses.opens {before after : Relation} (h : Encloses before after) : Opens before := by
  rcases h with h | ⟨outer, behind, h⟩
  · exact Or.inl (congrArg Prod.fst h)
  · exact Or.inr ⟨outer, congrArg Prod.fst h⟩

lemma Encloses.closes {before after : Relation} (h : Encloses before after) : Closes after := by
  rcases h with h | ⟨outer, behind, h⟩
  · exact Or.inl (congrArg Prod.snd h)
  · exact Or.inr ⟨behind, congrArg Prod.snd h⟩

lemma endsOperand_append (t : Row.Operand) (before : Relation) :
    EndsOperand (t.tokens.reverse ++ before) := by
  obtain ⟨front, last, htokens, hlast⟩ := t.exists_tokens_concat
  exact ⟨last, front.reverse ++ before, by simp [htokens], hlast⟩

/-! ## Empty groups -/

/-- A gap is closed when what meets there is not an empty group. -/
lemma closeGap_of_dropOperator {before after : Relation} {gap : Relation × Relation}
    (h : dropOperator (before.dropWhile (· = .op .not)) after = gap)
    (hgap : gap.1.head? ≠ some (.op .openParen) ∨ gap.2.head? ≠ some (.op .closeParen)) :
    closeGap before after = gap := by
  rw [closeGap]
  split
  · rename_i before' after' hgroup
    rw [← h, hgroup] at hgap
    simp at hgap
  · exact h

/-- An empty group is taken out as an operand, with the operators that served it. -/
lemma closeGap_of_dropOperator_group {before after before' after' : Relation}
    (h : dropOperator (before.dropWhile (· = .op .not)) after =
      (.op .openParen :: before', .op .closeParen :: after')) :
    closeGap before after = closeGap before' after' := by
  rw [closeGap]
  split
  · rename_i hgroup
    rw [h] at hgroup
    simp only [Prod.mk.injEq, List.cons.injEq, true_and] at hgroup
    rw [hgroup.1, hgroup.2]
  · rename_i hother
    exact absurd h (hother _ _)

lemma closeGap_group (before after : Relation) :
    closeGap (.op .openParen :: before) (.op .closeParen :: after) = closeGap before after :=
  closeGap_of_dropOperator_group rfl

lemma closeGap_not (before after : Relation) :
    closeGap (.op .not :: before) after = closeGap before after := by
  rw [closeGap.eq_def, closeGap.eq_def before after]
  rfl

/-! ## Gaps in a row -/

/-- Behind an operand, the operator in front of the gap is lost and nothing else. -/
lemma closeGap_connective {before : Relation} (h : EndsOperand before) (c : Connective)
    (after : Relation) : closeGap (.op c.operator :: before) after = (before, after) := by
  obtain ⟨last, outer, rfl, hlast⟩ := h
  refine closeGap_of_dropOperator (by cases c <;> rfl) (Or.inl ?_)
  intro hopen
  rw [Option.some.inj hopen] at hlast
  cases hlast

/-- What stands in front of a gap stays when no operator ends it. -/
lemma dropOperator_of_rests {before : Relation} (h : Opens before ∨ EndsOperand before)
    (after : Relation) :
    dropOperator (before.dropWhile (· = .op .not)) after = (before, dropBinary after) := by
  rcases h with (rfl | ⟨outer, rfl⟩) | ⟨last, outer, rfl, hlast⟩
  · rfl
  · rfl
  · match last, hlast with
    | .ref target, _ => rfl
    | .op .closeParen, _ => rfl

/-- In front of an operand, the operator that stands there is lost and nothing else. -/
lemma closeGap_link {before : Relation} (h : Opens before ∨ EndsOperand before)
    (link : Option Connective) (t : Row.Operand) (after : Relation) :
    closeGap before (Row.linkTokens link ++ (t.tokens ++ after)) = (before, t.tokens ++ after) := by
  obtain ⟨first, others, htokens, hfirst⟩ := t.exists_tokens_cons
  have hdrop : dropBinary (Row.linkTokens link ++ (t.tokens ++ after)) = t.tokens ++ after := by
    rw [htokens]
    match link, first, hfirst with
    | some .and, _, _ => rfl
    | some .or, _, _ => rfl
    | none, .ref target, _ => rfl
    | none, .op .openParen, _ => rfl
    | none, .op .not, _ => rfl
  refine closeGap_of_dropOperator ((dropOperator_of_rests h _).trans (by rw [hdrop])) (Or.inr ?_)
  intro hclose
  rw [htokens] at hclose
  rw [Option.some.inj hclose] at hfirst
  cases hfirst

/-- Behind the last operand of a row, nothing is lost. -/
lemma closeGap_last {before after : Relation} (h : EndsOperand before) (hafter : Closes after) :
    closeGap before after = (before, after) := by
  have hdrop : dropBinary after = after := by
    rcases hafter with rfl | ⟨outer, rfl⟩ <;> rfl
  refine closeGap_of_dropOperator
    ((dropOperator_of_rests (Or.inr h) after).trans (by rw [hdrop])) (Or.inl ?_)
  obtain ⟨last, outer, rfl, hlast⟩ := h
  intro hopen
  rw [Option.some.inj hopen] at hlast
  cases hlast

/-! ## The pass at a gap -/

/-- The pass once it is through an operand of which this is left: behind the tokens that are left,
or at the gap where the operand stood. -/
def resume (coins : CoinSet) (before after : Relation) : Option Relation → Relation
  | some left => prunedFrom coins (left.reverse ++ before) after
  | none => prunedFrom coins (closeGap before after).1 (closeGap before after).2

end CoinQuery.Relation
