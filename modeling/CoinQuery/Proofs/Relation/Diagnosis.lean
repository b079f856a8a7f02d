import CoinQuery.Proofs.Relation.Row

/-!
# Diagnoses by kinds of issues

One reading of the tokens finds issues of all kinds, but what is found of one kind depends on few of
the tokens.

* Unresolved labels are the labels of the relation.
* What is wrong with parentheses is read off the parentheses alone: `Relation.nesting` counts how
  many close nothing and how many are still open in the end.
* Whether an operator lacks an operand depends on the two tokens beside it (`Fault.count`), and what
  matters of these is only whether an operand ends there, or starts.  `Relation.faults` adds up what
  the operators lack.

A relation is clean when nothing is found of the four structural kinds (`Relation.clean_iff`).
-/

namespace CoinQuery

inductive IssueKind
  | unmatchedClose
  | unclosedOpen
  | missingOperand
  | danglingNot
  | unresolvedLabel
  | staleReference
deriving DecidableEq

def Issue.kind : Issue → IssueKind
  | .unmatchedClose _ => .unmatchedClose
  | .unclosedOpen _ => .unclosedOpen
  | .missingOperand _ => .missingOperand
  | .danglingNot _ => .danglingNot
  | .unresolvedLabel _ => .unresolvedLabel
  | .staleReference _ => .staleReference

/-- What an operator can lack. -/
inductive Fault
  | missingOperand
  | danglingNot

def Fault.kind : Fault → IssueKind
  | .missingOperand => .missingOperand
  | .danglingNot => .danglingNot

/-- Whether a token has this fault, as a number.  An operand `ends` in front of it or not, and one
`starts` behind it or not. -/
def Fault.count (ends starts : Bool) : Fault → Token → Nat
  | .missingOperand, .op .and | .missingOperand, .op .or => if ends && starts then 0 else 1
  | .danglingNot, .op .not => if starts then 0 else 1
  | _, _ => 0

namespace Relation

/-- The issues of one kind in a diagnosis. -/
def issuesOf (kind : IssueKind) (r : Relation) (coins : CoinSet) : List Issue :=
  (r.diagnose coins).filter (·.kind = kind)

variable {coins : CoinSet} {index depth : Nat} {previous : Option Token} {r : Relation}

lemma diagnoseFrom_cons (t : Token) :
    diagnoseFrom coins index depth previous (t :: r) =
      (issueAt? coins index depth previous r.head? t).toList ++
        diagnoseFrom coins (index + 1) (depthBehind depth t) (some t) r := by
  rw [diagnoseFrom]
  cases issueAt? coins index depth previous r.head? t <;> rfl

/-- A relation is clean when there are no issues of the structural kinds. -/
lemma clean_iff : r.Clean coins ↔ r.issuesOf .unmatchedClose coins = [] ∧
    r.issuesOf .unclosedOpen coins = [] ∧ r.issuesOf .missingOperand coins = [] ∧
    r.issuesOf .danglingNot coins = [] := by
  simp only [issuesOf, List.filter_eq_nil_iff, Clean, ← forall_and]
  refine forall_congr' fun issue => ?_
  cases issue <;> simp [Issue.isStructural, Issue.kind]

/-! ## Labels -/

/-- The labels among the references of a relation, in order. -/
def labels (r : Relation) : List Nat :=
  r.filterMap fun
    | .ref (.label n) => some n
    | _ => none

lemma mem_labels_iff {n : Nat} : n ∈ r.labels ↔ Token.label n ∈ r := by
  rw [labels, List.mem_filterMap]
  constructor
  · rintro ⟨t, ht, h⟩
    match t, h with
    | .ref (.label m), h =>
      obtain rfl := Option.some.inj h
      exact ht
  · exact fun h => ⟨_, h, rfl⟩

lemma unresolved_issueAt? (next : Option Token) (t : Token) :
    (issueAt? coins index depth previous next t).toList.filter (·.kind = .unresolvedLabel) =
      (labels [t]).map .unresolvedLabel := by
  match t with
  | .ref (.label n) => rfl
  | .op .openParen => rfl
  | .ref (.coin _) | .op .closeParen | .op .and | .op .or | .op .not =>
    simp only [issueAt?]
    split <;> rfl

lemma unresolved_diagnoseFrom :
    (diagnoseFrom coins index depth previous r).filter (·.kind = .unresolvedLabel) =
      r.labels.map .unresolvedLabel := by
  induction r generalizing index depth previous with
  | nil =>
    rw [diagnoseFrom]
    split <;> rfl
  | cons t r ih =>
    have hlabels : labels (t :: r) = labels [t] ++ labels r := List.filterMap_append (l := [t])
    rw [diagnoseFrom_cons, List.filter_append, ih, unresolved_issueAt?, hlabels, List.map_append]

lemma issuesOf_unresolvedLabel (r : Relation) (coins : CoinSet) :
    r.issuesOf .unresolvedLabel coins = r.labels.map .unresolvedLabel :=
  unresolved_diagnoseFrom

/-! ## Parentheses -/

/-- What a reading of parentheses has come to: how many closed nothing, and how many are open. -/
structure Nesting where
  unmatched : Nat
  depth : Nat
deriving DecidableEq

def Nesting.read (n : Nesting) : Token → Nesting
  | .op .openParen => { n with depth := n.depth + 1 }
  | .op .closeParen =>
    if n.depth = 0 then { n with unmatched := n.unmatched + 1 } else { n with depth := n.depth - 1 }
  | _ => n

def nesting (r : Relation) : Nesting := r.foldl Nesting.read ⟨0, 0⟩

lemma Nesting.depth_read (n : Nesting) (t : Token) :
    (n.read t).depth = depthBehind n.depth t := by
  match t with
  | .ref _ | .op .openParen | .op .and | .op .or | .op .not => rfl
  | .op .closeParen =>
    rw [read, depthBehind]
    split
    · rename_i hdepth
      rw [hdepth]
    · rfl

lemma Nesting.read_openParen_closeParen (n : Nesting) :
    (n.read (.op .openParen)).read (.op .closeParen) = n := rfl

lemma unmatched_issueAt? (n : Nesting) (next : Option Token) (t : Token) :
    n.unmatched +
        ((issueAt? coins index n.depth previous next t).toList.filter
          (·.kind = .unmatchedClose)).length =
      (n.read t).unmatched := by
  match t with
  | .ref (.label _) | .op .openParen => rfl
  | .ref (.coin _) | .op .and | .op .or | .op .not =>
    simp only [issueAt?]
    split <;> rfl
  | .op .closeParen =>
    simp only [issueAt?, Nesting.read]
    split <;> rfl

lemma unmatched_diagnoseFrom (n : Nesting) :
    n.unmatched +
        ((diagnoseFrom coins index n.depth previous r).filter (·.kind = .unmatchedClose)).length =
      (r.foldl Nesting.read n).unmatched := by
  induction r generalizing index n previous with
  | nil =>
    rw [diagnoseFrom]
    split <;> rfl
  | cons t r ih =>
    rw [diagnoseFrom_cons, List.filter_append, List.length_append, ← Nat.add_assoc,
      unmatched_issueAt?, ← Nesting.depth_read, ih, List.foldl_cons]

lemma unclosed_issueAt? (next : Option Token) (t : Token) :
    (issueAt? coins index depth previous next t).toList.filter (·.kind = .unclosedOpen) = [] := by
  match t with
  | .ref (.label _) | .op .openParen => rfl
  | .ref (.coin _) | .op .closeParen | .op .and | .op .or | .op .not =>
    simp only [issueAt?]
    split <;> rfl

lemma unclosed_diagnoseFrom (n : Nesting) :
    (diagnoseFrom coins index n.depth previous r).filter (·.kind = .unclosedOpen) =
      if (r.foldl Nesting.read n).depth = 0 then []
      else [.unclosedOpen (r.foldl Nesting.read n).depth] := by
  induction r generalizing index n previous with
  | nil =>
    rw [diagnoseFrom, List.foldl_nil]
    split <;> rfl
  | cons t r ih =>
    rw [diagnoseFrom_cons, List.filter_append, unclosed_issueAt?, List.nil_append,
      ← Nesting.depth_read, ih, List.foldl_cons]

lemma length_issuesOf_unmatchedClose (r : Relation) (coins : CoinSet) :
    (r.issuesOf .unmatchedClose coins).length = r.nesting.unmatched := by
  rw [← Nat.zero_add (r.issuesOf .unmatchedClose coins).length]
  exact unmatched_diagnoseFrom ⟨0, 0⟩

lemma issuesOf_unclosedOpen (r : Relation) (coins : CoinSet) :
    r.issuesOf .unclosedOpen coins =
      if r.nesting.depth = 0 then [] else [.unclosedOpen r.nesting.depth] :=
  unclosed_diagnoseFrom ⟨0, 0⟩

/-! ## Operators -/

/-- How many operators have this fault, behind an operand or not. -/
def faults (f : Fault) (ends : Bool) : Relation → Nat
  | [] => 0
  | t :: after =>
    f.count ends (after.head?.any Token.startsOperand) t + faults f t.endsOperand after

variable {f : Fault}

lemma length_issueAt? (next : Option Token) (t : Token) :
    ((issueAt? coins index depth previous next t).toList.filter (·.kind = f.kind)).length =
      f.count (previous.any Token.endsOperand) (next.any Token.startsOperand) t := by
  match t with
  | .ref (.label n) | .op .openParen => cases f <;> rfl
  | .ref (.coin id) | .op .closeParen =>
    simp only [issueAt?]
    split <;> cases f <;> rfl
  | .op .and | .op .or | .op .not =>
    simp only [issueAt?]
    split <;> rename_i hbeside <;> cases f <;> simp only [Fault.count, hbeside] <;> rfl

lemma faults_diagnoseFrom :
    ((diagnoseFrom coins index depth previous r).filter (·.kind = f.kind)).length =
      faults f (previous.any Token.endsOperand) r := by
  induction r generalizing index depth previous with
  | nil =>
    rw [diagnoseFrom]
    split <;> cases f <;> rfl
  | cons t r ih =>
    rw [diagnoseFrom_cons, List.filter_append, List.length_append, length_issueAt?, ih]
    rfl

lemma length_issuesOf (f : Fault) (r : Relation) (coins : CoinSet) :
    (r.issuesOf f.kind coins).length = r.faults f false :=
  faults_diagnoseFrom

end Relation

end CoinQuery
