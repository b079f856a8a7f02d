import CoinQuery.Proofs.Relation.Expression

/-!
# Rows of operands

Some issues of a diagnosis are structural: a parenthesis without its partner, or an operator without
an operand.  A relation that has none of these need not make sense yet.  Operands may stand side by
side with nothing between them, and a pair of parentheses may hold nothing; both occur while a
relation is being built.  `Row` is the syntax of expressions with these two liberties, and
`Relation.Clean.exists_row` says that it covers every relation without structural issues.

The proof goes through the tokens once, as the diagnosis does.  What is left to read behind a token
is described by what the token itself allows there and by the parentheses that are still open
(`Row.Closing`).
-/

namespace CoinQuery

mutual

inductive Row.Operand
  | ref (target : Reference)
  | not (operand : Row.Operand)
  | group (inner : Row)

/-- Any number of operands, side by side or with an operator between them. -/
inductive Row
  | empty
  | cons (first : Row.Operand) (rest : Row.Links)

/-- What follows the first operand of a row: each operand with the operator in front of it, if there
is one. -/
inductive Row.Links
  | nil
  | cons (link : Option Connective) (operand : Row.Operand) (rest : Row.Links)

end

/-! ## Writing rows down -/

def Row.linkTokens (link : Option Connective) : Relation :=
  (link.map fun connective => Token.op connective.operator).toList

mutual

def Row.Operand.tokens : Row.Operand → Relation
  | .ref target => [.ref target]
  | .not operand => .op .not :: operand.tokens
  | .group inner => .op .openParen :: (inner.tokens ++ [.op .closeParen])

def Row.tokens : Row → Relation
  | .empty => []
  | .cons first rest => first.tokens ++ rest.tokens

def Row.Links.tokens : Row.Links → Relation
  | .nil => []
  | .cons link operand rest => Row.linkTokens link ++ (operand.tokens ++ rest.tokens)

end

lemma Row.Operand.exists_tokens_cons (t : Row.Operand) :
    ∃ first rest, t.tokens = first :: rest ∧ first.startsOperand = true := by
  match t with
  | .ref target => exact ⟨_, _, rfl, rfl⟩
  | .not operand => exact ⟨_, _, rfl, rfl⟩
  | .group inner => exact ⟨_, _, rfl, rfl⟩

lemma Row.Operand.exists_tokens_concat (t : Row.Operand) :
    ∃ front last, t.tokens = front ++ [last] ∧ last.endsOperand = true := by
  match t with
  | .ref target => exact ⟨[], _, rfl, rfl⟩
  | .not operand =>
    obtain ⟨front, last, htokens, hlast⟩ := operand.exists_tokens_concat
    exact ⟨.op .not :: front, last, by rw [Row.Operand.tokens, htokens, List.cons_append], hlast⟩
  | .group inner => exact ⟨.op .openParen :: inner.tokens, _, rfl, rfl⟩

/-! ## Expressions as rows -/

mutual

def Operand.row : Operand → Row.Operand
  | .ref target => .ref target
  | .not operand => .not operand.row
  | .group inner => .group inner.row

def Expression.row : Expression → Row
  | .chain first rest => .cons first.row rest.row

def Chain.row : Chain → Row.Links
  | .nil => .nil
  | .cons connective operand rest => .cons (some connective) operand.row rest.row

end

mutual

@[simp] lemma Operand.tokens_row : ∀ t : Operand, t.row.tokens = t.tokens
  | .ref target => rfl
  | .not operand => by
    rw [Operand.row, Row.Operand.tokens, Operand.tokens, operand.tokens_row]
  | .group inner => by
    rw [Operand.row, Row.Operand.tokens, Operand.tokens, inner.tokens_row]

@[simp] lemma Expression.tokens_row : ∀ e : Expression, e.row.tokens = e.tokens
  | .chain first rest => by
    rw [Expression.row, Row.tokens, Expression.tokens, first.tokens_row, rest.tokens_row]

@[simp] lemma Chain.tokens_row : ∀ c : Chain, c.row.tokens = c.tokens
  | .nil => rfl
  | .cons connective operand rest => by
    rw [Chain.row, Row.Links.tokens, Chain.tokens, operand.tokens_row, rest.tokens_row]
    rfl

end

/-! ## Structural issues -/

/-- Whether an issue is about parentheses and operators, whatever the references mean. -/
def Issue.isStructural : Issue → Bool
  | .unmatchedClose _ | .unclosedOpen _ | .missingOperand _ | .danglingNot _ => true
  | .unresolvedLabel _ | .staleReference _ => false

namespace Relation

/-- Parentheses match and no operator lacks an operand. -/
def Clean (r : Relation) (coins : CoinSet) : Prop :=
  ∀ issue ∈ r.diagnose coins, issue.isStructural = false

/-- Nothing structural is wrong from here on, with `depth` parentheses open behind `previous`. -/
def CleanFrom (coins : CoinSet) (index depth : Nat) (previous : Option Token) (r : Relation) :
    Prop :=
  ∀ issue ∈ diagnoseFrom coins index depth previous r, issue.isStructural = false

variable {coins : CoinSet} {index depth : Nat} {previous : Option Token} {r : Relation}

lemma CleanFrom.depth_eq_zero (h : CleanFrom coins index depth previous []) : depth = 0 := by
  by_contra hdepth
  have hunclosed := h (.unclosedOpen depth) (by simp [diagnoseFrom, hdepth])
  cases hunclosed

lemma CleanFrom.tail {t : Token} (h : CleanFrom coins index depth previous (t :: r)) :
    CleanFrom coins (index + 1) (depthBehind depth t) (some t) r := by
  intro issue hissue
  apply h
  rw [diagnoseFrom]
  split
  · exact List.mem_cons_of_mem _ hissue
  · exact hissue

lemma CleanFrom.head {t : Token} (h : CleanFrom coins index depth previous (t :: r))
    (issue : Issue) (hissue : issueAt? coins index depth previous r.head? t = some issue) :
    issue.isStructural = false :=
  h issue (by simp [diagnoseFrom, hissue])

/-- A parenthesis that closes was opened. -/
lemma CleanFrom.depth_pos (h : CleanFrom coins index depth previous (.op .closeParen :: r)) :
    0 < depth := by
  by_contra hdepth
  have hunmatched := h.head (.unmatchedClose index) (if_pos (Nat.eq_zero_of_not_pos hdepth))
  cases hunmatched

lemma CleanFrom.connective {c : Connective}
    (h : CleanFrom coins index depth previous (.op c.operator :: r)) :
    previous.any Token.endsOperand = true ∧ r.head?.any Token.startsOperand = true := by
  rw [← Bool.and_eq_true]
  by_contra hlacks
  have hmissing := h.head (.missingOperand index) (by cases c <;> exact if_neg hlacks)
  cases hmissing

lemma CleanFrom.not (h : CleanFrom coins index depth previous (.op .not :: r)) :
    r.head?.any Token.startsOperand = true := by
  by_contra hlacks
  have hdangling := h.head (.danglingNot index) (if_neg hlacks)
  cases hdangling

end Relation

/-! ## Reading clean relations -/

open CoinQuery.Relation

namespace Row

/-- What is left of a relation where a row with `depth` parentheses around it ends: each of these
closes, and the row around it goes on. -/
inductive Closing : Nat → Relation → Prop
  | done : Closing 0 []
  | close {depth : Nat} {outer : Relation} (links : Links) (h : Closing depth outer) :
      Closing (depth + 1) (.op .closeParen :: (links.tokens ++ outer))

/-- A row goes on with these tokens, behind an operand. -/
def GoesOn (depth : Nat) (r : Relation) : Prop :=
  ∃ links outer, r = Links.tokens links ++ outer ∧ Closing depth outer

/-- A row begins with these tokens. -/
def Begins (depth : Nat) (r : Relation) : Prop :=
  ∃ row outer, r = Row.tokens row ++ outer ∧ Closing depth outer

/-- An operand begins with these tokens, and a row goes on behind it. -/
def OperandBegins (depth : Nat) (r : Relation) : Prop :=
  ∃ operand rest, r = Operand.tokens operand ++ rest ∧ GoesOn depth rest

/-- What the token in front says of the tokens that follow: behind an operand a row goes on, and
behind a parenthesis that opens one begins. -/
structure Reads (depth : Nat) (previous : Option Token) (r : Relation) : Prop where
  operand : r.head?.any Token.startsOperand = true → OperandBegins depth r
  links : previous.any Token.endsOperand = true → GoesOn depth r
  row : previous.all (· = .op .openParen) = true → Begins depth r

variable {depth : Nat} {previous : Option Token} {r : Relation}

/-- Behind an operand another one may follow, with an operator between them or without. -/
lemma OperandBegins.goesOn (h : OperandBegins depth r) (link : Option Connective) :
    GoesOn depth (linkTokens link ++ r) := by
  obtain ⟨operand, -, rfl, links, outer, rfl, hclosing⟩ := h
  exact ⟨.cons link operand links, outer, by simp [Links.tokens], hclosing⟩

lemma OperandBegins.begins (h : OperandBegins depth r) : Begins depth r := by
  obtain ⟨operand, -, rfl, links, outer, rfl, hclosing⟩ := h
  exact ⟨.cons operand links, outer, by rw [tokens, List.append_assoc], hclosing⟩

/-- Where an operand begins, a row can begin or go on. -/
lemma OperandBegins.reads (h : OperandBegins depth r) : Reads depth previous r where
  operand _ := h
  links _ := h.goesOn none
  row _ := h.begins

/-- Where a row ends, it can be empty or go on with nothing. -/
lemma Closing.reads (h : Closing depth r) : Reads depth previous r where
  operand := by cases h <;> nofun
  links _ := ⟨.nil, r, rfl, h⟩
  row _ := ⟨.empty, r, rfl, h⟩

/-- With an operator a row can only go on. -/
lemma OperandBegins.reads_connective (h : OperandBegins depth r) (c : Connective)
    (hends : previous.any Token.endsOperand = true) :
    Reads depth previous (.op c.operator :: r) where
  operand := by cases c <;> nofun
  links _ := h.goesOn (some c)
  row hopens := by
    -- no operand ends with a parenthesis that opens
    cases previous with
    | none => cases hends
    | some last =>
      obtain rfl : last = .op .openParen := by simpa using hopens
      cases hends

lemma OperandBegins.ref (target : Reference) (h : GoesOn depth r) :
    OperandBegins depth (.ref target :: r) :=
  ⟨.ref target, r, rfl, h⟩

lemma OperandBegins.not (h : OperandBegins depth r) : OperandBegins depth (.op .not :: r) := by
  obtain ⟨operand, rest, rfl, hrest⟩ := h
  exact ⟨.not operand, rest, rfl, hrest⟩

/-- The row behind a parenthesis that opens ends where the parenthesis closes. -/
lemma OperandBegins.group (h : Begins (depth + 1) r) :
    OperandBegins depth (.op .openParen :: r) := by
  obtain ⟨inner, -, rfl, ⟨⟩ | ⟨links, hclosing⟩⟩ := h
  exact ⟨.group inner, _, by simp [Operand.tokens], links, _, rfl, hclosing⟩

lemma reads_of_cleanFrom {coins : CoinSet} {index : Nat}
    (h : CleanFrom coins index depth previous r) : Reads depth previous r := by
  induction r generalizing index depth previous with
  | nil =>
    obtain rfl := h.depth_eq_zero
    exact Closing.done.reads
  | cons t r ih =>
    have hrest : Reads (depthBehind depth t) (some t) r := ih h.tail
    match t with
    | .ref target => exact (OperandBegins.ref target (hrest.links rfl)).reads
    | .op .openParen => exact (OperandBegins.group (hrest.row rfl)).reads
    | .op .not => exact (OperandBegins.not (hrest.operand h.not)).reads
    | .op .and =>
      obtain ⟨hfront, hnext⟩ := h.connective (c := .and)
      exact (hrest.operand hnext).reads_connective .and hfront
    | .op .or =>
      obtain ⟨hfront, hnext⟩ := h.connective (c := .or)
      exact (hrest.operand hnext).reads_connective .or hfront
    | .op .closeParen =>
      obtain ⟨links, outer, rfl, hclosing⟩ := hrest.links rfl
      have hclose := Closing.close links hclosing
      rw [depthBehind, Nat.sub_add_cancel h.depth_pos] at hclose
      exact hclose.reads

end Row

/-- A relation without structural issues is written from a row. -/
theorem Relation.Clean.exists_row {r : Relation} {coins : CoinSet} (h : r.Clean coins) :
    ∃ row : Row, row.tokens = r := by
  obtain ⟨row, outer, rfl, ⟨⟩⟩ := (Row.reads_of_cleanFrom h).row rfl
  exact ⟨row, (List.append_nil _).symm⟩

end CoinQuery
