import CoinQuery.Proofs.Relation.Diagnosis
import CoinQuery.Proofs.Relation.Survivors

/-!
# Diagnosing expressions

Nothing structural is wrong with what is written from an expression, so a diagnosis of it speaks of
its references only: of each label, and of each coin that is not in the set, in the order of the
leaves (`Expression.diagnose_tokens`).

Both halves hold more widely.  Whatever a relation looks like, the issues that are not structural
are those of its references (`Relation.filter_diagnose`).  And no relation that is written from a
row has a structural issue (`Row.clean_tokens`), the converse of `Relation.Clean.exists_row`.  The
induction over rows carries what a reading of their tokens comes to: parentheses are left as they
were found, and no operator lacks anything, whatever stands in front and behind.
-/

namespace CoinQuery

open CoinQuery.Relation

/-! ## The issues of references -/

/-- What is wrong with a reference: a label names no coin yet, and a coin may have left the set. -/
def Reference.issue? (coins : CoinSet) : Reference → Option Issue
  | .label n => some (.unresolvedLabel n)
  | .coin id => if coins.holds id then none else some (.staleReference id)

namespace Relation

variable {coins : CoinSet} {index depth : Nat} {previous : Option Token} {r : Relation}

lemma filter_issueAt? (next : Option Token) (t : Token) :
    (issueAt? coins index depth previous next t).toList.filter (!·.isStructural) =
      (references [t]).filterMap (Reference.issue? coins) := by
  match t with
  | .ref (.label n) | .op .openParen => rfl
  | .ref (.coin id) =>
    simp only [issueAt?, references, Token.reference?, Reference.issue?, List.filterMap]
    split <;> rfl
  | .op .closeParen | .op .and | .op .or | .op .not =>
    simp only [issueAt?]
    split <;> rfl

lemma filter_diagnoseFrom :
    (diagnoseFrom coins index depth previous r).filter (!·.isStructural) =
      r.references.filterMap (Reference.issue? coins) := by
  induction r generalizing index depth previous with
  | nil =>
    rw [diagnoseFrom]
    split <;> rfl
  | cons t r ih =>
    have hreferences : references (t :: r) = references [t] ++ references r :=
      List.filterMap_append (l := [t])
    rw [diagnoseFrom_cons, List.filter_append, ih, filter_issueAt?, hreferences,
      List.filterMap_append]

/-- The issues that are not structural are those of the references. -/
lemma filter_diagnose (r : Relation) (coins : CoinSet) :
    (r.diagnose coins).filter (!·.isStructural) = r.references.filterMap (Reference.issue? coins) :=
  filter_diagnoseFrom

lemma Clean.diagnose_eq (h : r.Clean coins) :
    r.diagnose coins = r.references.filterMap (Reference.issue? coins) := by
  rw [← filter_diagnose, List.filter_eq_self.mpr fun issue hissue => by rw [h issue hissue]; rfl]

end Relation

/-! ## Rows have no structural issues -/

mutual

/-- The parentheses of an operand match. -/
lemma Row.Operand.foldl_read : ∀ (t : Row.Operand) (n : Nesting),
    t.tokens.foldl Nesting.read n = n
  | .ref target, n => rfl
  | .not operand, n => by
    rw [Row.Operand.tokens, List.foldl_cons]
    exact operand.foldl_read n
  | .group inner, n => by
    rw [Row.Operand.tokens, List.foldl_cons, List.foldl_append, inner.foldl_read, List.foldl_cons,
      List.foldl_nil, Nesting.read_openParen_closeParen]

lemma Row.foldl_read : ∀ (row : Row) (n : Nesting), row.tokens.foldl Nesting.read n = n
  | .empty, n => rfl
  | .cons first rest, n => by
    rw [Row.tokens, List.foldl_append, first.foldl_read, rest.foldl_read]

lemma Row.Links.foldl_read : ∀ (links : Row.Links) (n : Nesting),
    links.tokens.foldl Nesting.read n = n
  | .nil, n => rfl
  | .cons link operand rest, n => by
    have hlink : (Row.linkTokens link).foldl Nesting.read n = n := by
      match link with
      | none | some .and | some .or => rfl
    rw [Row.Links.tokens, List.foldl_append, List.foldl_append, hlink, operand.foldl_read,
      rest.foldl_read]

end

/-- An operand begins where one is written. -/
lemma Row.Operand.any_head?_tokens (t : Row.Operand) (after : Relation) :
    (t.tokens ++ after).head?.any Token.startsOperand = true := by
  obtain ⟨first, rest, htokens, hstarts⟩ := t.exists_tokens_cons
  rw [htokens]
  exact hstarts

variable {f : Fault}

/-- A token that lacks nothing adds no fault. -/
lemma faults_cons_of_count_eq_zero {ends : Bool} {t : Token} {after : Relation}
    (h : f.count ends (after.head?.any Token.startsOperand) t = 0) :
    faults f ends (t :: after) = faults f t.endsOperand after := by
  rw [faults, h, Nat.zero_add]

mutual

/-- No operator of an operand lacks anything, and an operand ends behind it. -/
lemma Row.Operand.faults_tokens : ∀ (t : Row.Operand) (ends : Bool) (after : Relation),
    faults f ends (t.tokens ++ after) = faults f true after
  | .ref target, ends, after => by
    rw [Row.Operand.tokens, List.singleton_append]
    exact faults_cons_of_count_eq_zero (by cases f <;> rfl)
  | .not operand, ends, after => by
    have hnot : f.count ends ((operand.tokens ++ after).head?.any Token.startsOperand)
        (.op .not) = 0 := by
      rw [operand.any_head?_tokens]
      cases f <;> rfl
    rw [Row.Operand.tokens, List.cons_append, faults_cons_of_count_eq_zero hnot,
      operand.faults_tokens]
  | .group inner, ends, after => by
    have hopen : ∀ r : Relation, faults f ends (.op .openParen :: r) = faults f false r :=
      fun r => faults_cons_of_count_eq_zero (by cases f <;> rfl)
    have hclose : ∀ ends, faults f ends (.op .closeParen :: after) = faults f true after :=
      fun ends => faults_cons_of_count_eq_zero (by cases f <;> rfl)
    rw [Row.Operand.tokens, List.cons_append, List.append_assoc, List.singleton_append, hopen,
      inner.faults_tokens _ _ fun ends => (hclose ends).trans (hclose true).symm, hclose]

/-- No operator of a row lacks anything, where it does not matter behind the row whether an operand
ends. -/
lemma Row.faults_tokens : ∀ (row : Row) (ends : Bool) (after : Relation),
    (∀ ends, faults f ends after = faults f true after) →
    faults f ends (row.tokens ++ after) = faults f true after
  | .empty, ends, after, hafter => hafter ends
  | .cons first rest, ends, after, hafter => by
    rw [Row.tokens, List.append_assoc, first.faults_tokens, rest.faults_tokens]

lemma Row.Links.faults_tokens : ∀ (links : Row.Links) (after : Relation),
    faults f true (links.tokens ++ after) = faults f true after
  | .nil, after => rfl
  | .cons link operand rest, after => by
    have hlink : ∀ r : Relation, r.head?.any Token.startsOperand = true →
        faults f true (Row.linkTokens link ++ r) = faults f link.isNone r := by
      intro r hr
      have hcount : ∀ c : Connective,
          f.count true (r.head?.any Token.startsOperand) (.op c.operator) = 0 := by
        intro c
        rw [hr]
        cases c <;> cases f <;> rfl
      match link with
      | none => rfl
      | some .and | some .or => exact faults_cons_of_count_eq_zero (hcount _)
    rw [Row.Links.tokens, List.append_assoc, List.append_assoc,
      hlink _ (operand.any_head?_tokens _), operand.faults_tokens, rest.faults_tokens]

end

/-- A row has no structural issues. -/
lemma Row.clean_tokens (row : Row) (coins : CoinSet) : row.tokens.Clean coins := by
  have hnesting : row.tokens.nesting = ⟨0, 0⟩ := row.foldl_read ⟨0, 0⟩
  have hfaults : ∀ f : Fault, row.tokens.issuesOf f.kind coins = [] := by
    intro f
    have hnone := row.faults_tokens (f := f) false [] fun _ => rfl
    rw [List.append_nil] at hnone
    exact List.length_eq_zero_iff.mp ((length_issuesOf f row.tokens coins).trans hnone)
  have hclose : row.tokens.issuesOf .unmatchedClose coins = [] := by
    apply List.length_eq_zero_iff.mp
    rw [length_issuesOf_unmatchedClose, hnesting]
  have hopen : row.tokens.issuesOf .unclosedOpen coins = [] := by
    rw [issuesOf_unclosedOpen, hnesting]
    rfl
  exact clean_iff.mpr ⟨hclose, hopen, hfaults .missingOperand, hfaults .danglingNot⟩

/-! ## The leaves of expressions -/

mutual

def Operand.leaves : Operand → List Reference
  | .ref target => [target]
  | .not operand => operand.leaves
  | .group inner => inner.leaves

/-- The references at the leaves of an expression, from left to right. -/
def Expression.leaves : Expression → List Reference
  | .chain first rest => first.leaves ++ rest.leaves

def Chain.leaves : Chain → List Reference
  | .nil => []
  | .cons _ operand rest => operand.leaves ++ rest.leaves

end

mutual

lemma Operand.references_tokens : ∀ t : Operand, t.tokens.references = t.leaves
  | .ref target => rfl
  | .not operand => operand.references_tokens
  | .group inner => by
    have hinner : references (inner.tokens ++ [.op .closeParen]) = inner.leaves := by
      rw [references, List.filterMap_append, ← inner.references_tokens]
      exact List.append_nil _
    exact hinner

lemma Expression.references_tokens : ∀ e : Expression, e.tokens.references = e.leaves
  | .chain first rest => by
    rw [Expression.tokens, references, List.filterMap_append]
    exact congrArg₂ _ first.references_tokens rest.references_tokens

lemma Chain.references_tokens : ∀ c : Chain, c.tokens.references = c.leaves
  | .nil => rfl
  | .cons connective operand rest => by
    have hrest : references (operand.tokens ++ rest.tokens) = operand.leaves ++ rest.leaves := by
      rw [references, List.filterMap_append]
      exact congrArg₂ _ operand.references_tokens rest.references_tokens
    exact hrest

end

/-- **A diagnosis of an expression speaks of its references only**, leaf by leaf: of every label, and
of every coin that is not in the set.  So nothing at all is wrong exactly when every leaf refers to
a coin of the set. -/
theorem Expression.diagnose_tokens (e : Expression) (coins : CoinSet) :
    e.tokens.diagnose coins = e.leaves.filterMap (Reference.issue? coins) ∧
    (e.tokens.diagnose coins = [] ↔
      ∀ target ∈ e.leaves, ∃ id, target = .coin id ∧ coins.holds id = true) := by
  have hclean : e.tokens.Clean coins := e.tokens_row ▸ e.row.clean_tokens coins
  have hissues : e.tokens.diagnose coins = e.leaves.filterMap (Reference.issue? coins) := by
    rw [hclean.diagnose_eq, e.references_tokens]
  have hlive : ∀ target : Reference, target.issue? coins = none ↔
      ∃ id, target = .coin id ∧ coins.holds id = true := by
    intro target
    cases target with
    | label n => simp [Reference.issue?]
    | coin id => simp [Reference.issue?]
  refine ⟨hissues, ?_⟩
  rw [hissues, List.filterMap_eq_nil_iff]
  exact forall₂_congr fun target _ => hlive target

end CoinQuery
