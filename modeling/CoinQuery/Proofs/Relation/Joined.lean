import CoinQuery.Inspection
import CoinQuery.Proofs.Relation.DiagnosedExpression
import Mathlib.Data.List.Chain

/-!
# What a diagnosis leaves open

A diagnosis looks at what stands beside each operator, and at how parentheses nest.  What stands
beside an operand is not looked at, and neither is what a pair of parentheses holds.  So there is no
issue in `C1 C2`, in `C1 NOT C2` or in `()`, and none of the three is an expression
(`Relation.diagnose_passes_unjoined`).

Nothing else slips through.  A relation is joined (`Relation.Joined`) when no operand stands right
behind another one and no parentheses are empty, which is again a matter of any two neighbours.  A
relation is an expression without a fault in its references exactly when it is not empty, its
diagnosis finds nothing, and it is joined (`Relation.wellFormed_iff_joined`).  One half of this goes
through rows, which have the very two liberties that joining takes away: a joined row is the row of
an expression.
-/

namespace CoinQuery

/-- A token may stand right in front of another one: they do not bring two operands together, and
they are no empty pair of parentheses. -/
def Token.Joins (t next : Token) : Prop :=
  ¬(t.endsOperand = true ∧ next.startsOperand = true) ∧
    ¬(t = .op .openParen ∧ next = .op .closeParen)

instance : DecidableRel Token.Joins := fun t next =>
  inferInstanceAs (Decidable (¬(t.endsOperand = true ∧ next.startsOperand = true) ∧
    ¬(t = .op .openParen ∧ next = .op .closeParen)))

/-- Operands are kept apart by operators, and no pair of parentheses is empty. -/
def Relation.Joined (r : Relation) : Prop := r.IsChain Token.Joins

instance (r : Relation) : Decidable r.Joined := inferInstanceAs (Decidable (r.IsChain Token.Joins))

namespace Token

/-- An operator that is no parenthesis joins whatever follows. -/
lemma joins_of_not_endsOperand {t : Token} (hends : t.endsOperand = false)
    (hopen : t ≠ .op .openParen) (next : Token) : t.Joins next := by
  refine ⟨fun h => ?_, fun h => hopen h.1⟩
  rw [hends] at h
  cases h.1

/-- Behind an operand, what follows must not start another one. -/
lemma joins_of_endsOperand {t next : Token} (hends : t.endsOperand = true)
    (hstarts : next.startsOperand = false) : t.Joins next := by
  refine ⟨fun h => ?_, ?_⟩
  · rw [hstarts] at h
    cases h.2
  · rintro ⟨rfl, -⟩
    cases hends

/-- A parenthesis opens in front of an operand. -/
lemma joins_openParen {next : Token} (hstarts : next.startsOperand = true) :
    Joins (.op .openParen) next := by
  refine ⟨fun h => ?_, ?_⟩
  · cases h.1
  · rintro ⟨-, rfl⟩
    cases hstarts

end Token

/-! ## Expressions are joined -/

/-- An expression begins with an operand. -/
lemma Expression.startsOperand_head? (e : Expression) (after : Relation) :
    ∀ t ∈ (e.tokens ++ after).head?, t.startsOperand = true := by
  obtain ⟨first, rest⟩ := e
  intro t ht
  have hany := first.row.any_head?_tokens (rest.tokens ++ after)
  rw [Operand.tokens_row, ← List.append_assoc] at hany
  rw [Expression.tokens, Option.mem_def] at ht
  rwa [ht] at hany

mutual

/-- An operand is joined, and to everything that can follow an operand. -/
lemma Operand.joined_append : ∀ (t : Operand) (after : Relation),
    (∀ last : Token, last.endsOperand = true → Relation.Joined (last :: after)) →
    Relation.Joined (t.tokens ++ after)
  | .ref target, after, hafter => hafter (.ref target) rfl
  | .not operand, after, hafter => by
    have hoperand : Relation.Joined (operand.tokens ++ after) := operand.joined_append after hafter
    refine List.isChain_cons.mpr ⟨fun next _ => ?_, hoperand⟩
    exact Token.joins_of_not_endsOperand rfl (by decide) next
  | .group inner, after, hafter => by
    have hclose : ∀ last : Token, last.endsOperand = true →
        Relation.Joined (last :: .op .closeParen :: after) := by
      intro last hlast
      exact List.isChain_cons_cons.mpr ⟨Token.joins_of_endsOperand hlast rfl, hafter _ rfl⟩
    have hinner := inner.joined_append (.op .closeParen :: after) hclose
    rw [Operand.tokens, List.cons_append, List.append_assoc, List.singleton_append]
    refine List.isChain_cons.mpr ⟨fun next hnext => ?_, hinner⟩
    exact Token.joins_openParen (inner.startsOperand_head? _ next hnext)

lemma Expression.joined_append : ∀ (e : Expression) (after : Relation),
    (∀ last : Token, last.endsOperand = true → Relation.Joined (last :: after)) →
    Relation.Joined (e.tokens ++ after)
  | .chain first rest, after, hafter => by
    rw [Expression.tokens, List.append_assoc]
    exact first.joined_append _ (rest.joined_append after hafter)

lemma Chain.joined_append : ∀ (c : Chain) (after : Relation),
    (∀ last : Token, last.endsOperand = true → Relation.Joined (last :: after)) →
    ∀ last : Token, last.endsOperand = true → Relation.Joined (last :: (c.tokens ++ after))
  | .nil, after, hafter, last, hlast => hafter last hlast
  | .cons connective operand rest, after, hafter, last, hlast => by
    have hoperand : Relation.Joined (operand.tokens ++ (rest.tokens ++ after)) :=
      operand.joined_append _ (rest.joined_append after hafter)
    have hfront : last.Joins (.op connective.operator) :=
      Token.joins_of_endsOperand hlast (by cases connective <;> rfl)
    have hbehind : ∀ next, Token.Joins (.op connective.operator) next :=
      Token.joins_of_not_endsOperand (by cases connective <;> rfl) (by cases connective <;> decide)
    rw [Chain.tokens, List.cons_append, List.append_assoc]
    exact List.isChain_cons_cons.mpr
      ⟨hfront, List.isChain_cons.mpr ⟨fun next _ => hbehind next, hoperand⟩⟩

end

lemma Relation.WellFormed.joined {r : Relation} (h : r.WellFormed) : r.Joined := by
  obtain ⟨e, rfl⟩ := h
  rw [← List.append_nil e.tokens]
  exact e.joined_append [] fun last _ => List.isChain_singleton last

/-! ## Joined rows are expressions -/

/-- Where an operand is joined to what follows, it is joined itself, and so is what follows behind
its last token. -/
lemma Row.Operand.joined_of_append {t : Row.Operand} {after : Relation}
    (h : Relation.Joined (t.tokens ++ after)) :
    t.tokens.Joined ∧ ∃ last : Token, last.endsOperand = true ∧
      Relation.Joined (last :: after) := by
  refine ⟨(List.isChain_append.mp h).1, ?_⟩
  obtain ⟨front, last, htokens, hends⟩ := t.exists_tokens_concat
  rw [htokens, List.append_assoc, List.singleton_append] at h
  exact ⟨last, hends, (List.isChain_append.mp h).2.1⟩

mutual

lemma Row.Operand.exists_row_eq : ∀ t : Row.Operand, t.tokens.Joined →
    ∃ o : CoinQuery.Operand, o.row = t
  | .ref target, _ => ⟨.ref target, rfl⟩
  | .not operand, h => by
    obtain ⟨o, ho⟩ := operand.exists_row_eq (List.isChain_cons.mp h).2
    exact ⟨.not o, by rw [CoinQuery.Operand.row, ho]⟩
  | .group inner, h => by
    have hinner : inner.tokens.Joined := (List.isChain_append.mp (List.isChain_cons.mp h).2).1
    obtain rfl | ⟨e, he⟩ := inner.eq_empty_or_exists_row_eq hinner
    · have hpair : ¬ Token.Joins (.op .openParen) (.op .closeParen) := by decide
      exact absurd (List.isChain_cons_cons.mp h).1 hpair
    · exact ⟨.group e, by rw [CoinQuery.Operand.row, he]⟩

lemma Row.eq_empty_or_exists_row_eq : ∀ row : Row, row.tokens.Joined →
    row = .empty ∨ ∃ e : Expression, e.row = row
  | .empty, _ => Or.inl rfl
  | .cons first rest, h => by
    obtain ⟨hfirst, last, hends, hrest⟩ := Row.Operand.joined_of_append h
    obtain ⟨o, ho⟩ := first.exists_row_eq hfirst
    obtain ⟨c, hc⟩ := rest.exists_row_eq last hends hrest
    exact Or.inr ⟨.chain o c, by rw [Expression.row, ho, hc]⟩

/-- Behind an operand, nothing but an operator can bring the next one. -/
lemma Row.Links.exists_row_eq : ∀ (links : Row.Links) (last : Token), last.endsOperand = true →
    Relation.Joined (last :: links.tokens) → ∃ c : Chain, c.row = links
  | .nil, _, _, _ => ⟨.nil, rfl⟩
  | .cons none operand rest, last, hends, h => by
    obtain ⟨first, others, htokens, hstarts⟩ := operand.exists_tokens_cons
    rw [Row.Links.tokens, htokens] at h
    exact absurd ⟨hends, hstarts⟩ (List.isChain_cons_cons.mp h).1.1
  | .cons (some connective) operand rest, last, hends, h => by
    have hbehind : Relation.Joined (operand.tokens ++ rest.tokens) :=
      (List.isChain_cons.mp (List.isChain_cons.mp h).2).2
    obtain ⟨hoperand, next, hnext, hrest⟩ := Row.Operand.joined_of_append hbehind
    obtain ⟨o, ho⟩ := operand.exists_row_eq hoperand
    obtain ⟨c, hc⟩ := rest.exists_row_eq next hnext hrest
    exact ⟨.cons connective o c, by rw [Chain.row, ho, hc]⟩

end

namespace Relation

lemma Joined.wellFormed {r : Relation} {coins : CoinSet} (h : r.Joined) (hne : r ≠ [])
    (hclean : r.Clean coins) : r.WellFormed := by
  obtain ⟨row, rfl⟩ := hclean.exists_row
  obtain rfl | ⟨e, rfl⟩ := row.eq_empty_or_exists_row_eq h
  · exact absurd rfl hne
  · exact ⟨e, e.tokens_row.symm⟩

/-- **A diagnosis and joining together are the grammar.**  A relation is an expression with nothing
wrong in its references, exactly when it is not empty, a diagnosis finds nothing, and no two
neighbours bring operands together or leave parentheses empty. -/
theorem wellFormed_iff_joined (r : Relation) (coins : CoinSet) :
    (r.WellFormed ∧ ∀ target ∈ r.references, target.issue? coins = none) ↔
      r ≠ [] ∧ r.diagnose coins = [] ∧ r.Joined := by
  constructor
  · rintro ⟨hexpression, hreferences⟩
    refine ⟨?_, ?_, hexpression.joined⟩
    · obtain ⟨e, rfl⟩ := hexpression
      exact e.tokens_ne_nil
    · obtain ⟨e, rfl⟩ := hexpression
      have hclean : e.tokens.Clean coins := e.tokens_row ▸ e.row.clean_tokens coins
      rw [hclean.diagnose_eq, List.filterMap_eq_nil_iff]
      exact hreferences
  · rintro ⟨hne, hdiagnosis, hjoined⟩
    have hclean : r.Clean coins := by
      intro issue hissue
      rw [hdiagnosis] at hissue
      cases hissue
    refine ⟨hjoined.wellFormed hne hclean, ?_⟩
    rwa [hclean.diagnose_eq, List.filterMap_eq_nil_iff] at hdiagnosis

/-- Against two coins, a diagnosis finds nothing in operands side by side, which are no
expression. -/
theorem diagnose_passes_unjoined :
    parse "C1 C2" (blankCoins 2) ≠ [] ∧
      (parse "C1 C2" (blankCoins 2)).diagnose (blankCoins 2) = [] ∧
      ¬(parse "C1 C2" (blankCoins 2)).WellFormed := by
  have hapart : ¬(parse "C1 C2" (blankCoins 2)).Joined := by decide
  exact ⟨by decide, by decide, fun h => hapart h.joined⟩

-- A negated operand right behind another one and a group of nothing pass as well.
example : ∀ text ∈ ["C1 NOT C2", "()"],
    (parse text (blankCoins 2)).diagnose (blankCoins 2) = [] ∧
      ¬(parse text (blankCoins 2)).Joined := by decide

end Relation

end CoinQuery
