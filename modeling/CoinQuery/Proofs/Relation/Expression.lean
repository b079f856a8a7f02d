import CoinQuery.Relation.Diagnosis
import Mathlib.Data.List.Basic

/-!
# Expressions

A relation makes sense when it is written from an expression: a chain of operands with `AND` or `OR`
between them, where an operand is a reference, a negated operand or a group, that is an expression
between parentheses.  `Expression.tokens` writes an expression down, and `Relation.WellFormed` says
that a relation is written from one.  Such a relation is never empty.
-/

namespace CoinQuery

inductive Connective
  | and
  | or
deriving DecidableEq

def Connective.operator : Connective → Operator
  | and => .and
  | or => .or

mutual

inductive Operand
  | ref (target : Reference)
  | not (operand : Operand)
  | group (inner : Expression)

inductive Expression
  | chain (first : Operand) (rest : Chain)

/-- What follows the first operand of a chain: each operand with the operator in front of it. -/
inductive Chain
  | nil
  | cons (connective : Connective) (operand : Operand) (rest : Chain)

end

/-! ## Writing expressions down -/

mutual

def Operand.tokens : Operand → Relation
  | .ref target => [.ref target]
  | .not operand => .op .not :: operand.tokens
  | .group inner => .op .openParen :: (inner.tokens ++ [.op .closeParen])

def Expression.tokens : Expression → Relation
  | .chain first rest => first.tokens ++ rest.tokens

def Chain.tokens : Chain → Relation
  | .nil => []
  | .cons connective operand rest => .op connective.operator :: (operand.tokens ++ rest.tokens)

end

/-- A relation that is written from an expression. -/
def Relation.WellFormed (r : Relation) : Prop := ∃ e : Expression, e.tokens = r

lemma Operand.tokens_ne_nil (t : Operand) : t.tokens ≠ [] := by
  cases t <;> exact List.cons_ne_nil _ _

lemma Expression.tokens_ne_nil (e : Expression) : e.tokens ≠ [] := by
  obtain ⟨first, rest⟩ := e
  exact List.append_ne_nil_of_left_ne_nil first.tokens_ne_nil rest.tokens

end CoinQuery
