import CoinQuery.Proofs.Relation.Diagnosis
import CoinQuery.Proofs.Relation.Reading
import CoinQuery.Relation.Binding

/-!
# Diagnoses of bound relations

Binding changes what a token refers to, and nothing that the tokens beside it are judged by.  So it
takes the labels it resolves out of the diagnosis and leaves all other issues, in their order
(`Relation.diagnose_bind`).  A relation that refers to no coin yet is diagnosed alike against any
coins (`Relation.diagnose_of_isReadable`).
-/

namespace CoinQuery

/-- Whether an issue is still there once labels are bound. -/
def Issue.isLeftBy (coins : CoinSet) : Issue → Bool
  | .unresolvedLabel n => (coins.idAt? n).isNone
  | _ => true

namespace Token

variable (coins : CoinSet) (t : Token)

lemma startsOperand_bind : (t.bind coins).startsOperand = t.startsOperand := by
  match t with
  | .ref (.label n) => cases h : coins.idAt? n <;> simp [bind, h, startsOperand]
  | .ref (.coin _) | .op _ => rfl

lemma endsOperand_bind : (t.bind coins).endsOperand = t.endsOperand := by
  match t with
  | .ref (.label n) => cases h : coins.idAt? n <;> simp [bind, h, endsOperand]
  | .ref (.coin _) | .op _ => rfl

end Token

namespace Relation

variable {coins : CoinSet} {index depth : Nat} {previous : Option Token} {r : Relation}

lemma depthBehind_bind (t : Token) : depthBehind depth (t.bind coins) = depthBehind depth t := by
  match t with
  | .ref (.label n) => cases h : coins.idAt? n <;> simp [Token.bind, h, depthBehind]
  | .ref (.coin _) | .op _ => rfl

lemma any_map_bind {f : Token → Bool} (h : ∀ t : Token, f (t.bind coins) = f t) (t : Option Token) :
    (t.map (Token.bind coins)).any f = t.any f := by
  cases t with
  | none => rfl
  | some t => exact h t

lemma issueAt?_bind (next : Option Token) (t : Token) :
    issueAt? coins index depth (previous.map (Token.bind coins)) (next.map (Token.bind coins))
        (t.bind coins) =
      (issueAt? coins index depth previous next t).filter (Issue.isLeftBy coins) := by
  have hends := any_map_bind (Token.endsOperand_bind coins) previous
  have hstarts := any_map_bind (Token.startsOperand_bind coins) next
  match t with
  | .ref (.label n) =>
    cases h : coins.idAt? n with
    | none => simp [Token.bind, h, issueAt?, Option.filter_some, Issue.isLeftBy]
    | some id =>
      simp [Token.bind, h, issueAt?, Option.filter_some, Issue.isLeftBy, CoinSet.holds_of_idAt? h]
  | .ref (.coin id) =>
    simp only [Token.bind, issueAt?]
    split <;> rfl
  | .op .openParen => rfl
  | .op .closeParen | .op .and | .op .or | .op .not =>
    simp only [Token.bind, issueAt?, hends, hstarts]
    split <;> rfl

lemma diagnoseFrom_bind :
    diagnoseFrom coins index depth (previous.map (Token.bind coins)) (r.bind coins) =
      (diagnoseFrom coins index depth previous r).filter (Issue.isLeftBy coins) := by
  induction r generalizing index depth previous with
  | nil =>
    rw [bind, List.map_nil, diagnoseFrom, diagnoseFrom]
    split <;> rfl
  | cons t r ih =>
    have hrest := @ih (index + 1) (depthBehind depth t) (some t)
    rw [bind, List.map_cons, diagnoseFrom_cons, diagnoseFrom_cons, List.filter_append, ← hrest,
      List.head?_map, issueAt?_bind, depthBehind_bind, Option.toList_filter]
    rfl

/-- Binding takes the labels it resolves out of a diagnosis, and nothing else. -/
lemma diagnose_bind (r : Relation) (coins : CoinSet) :
    (r.bind coins).diagnose coins = (r.diagnose coins).filter (Issue.isLeftBy coins) :=
  @diagnoseFrom_bind coins 0 0 none r

/-! ## Relations that refer to no coin -/

lemma diagnoseFrom_of_isReadable (hr : ∀ t ∈ r, t.IsReadable) (other : CoinSet) :
    diagnoseFrom coins index depth previous r = diagnoseFrom other index depth previous r := by
  induction r generalizing index depth previous with
  | nil => rfl
  | cons t r ih =>
    have hissue : issueAt? coins index depth previous r.head? t =
        issueAt? other index depth previous r.head? t := by
      match t, hr t List.mem_cons_self with
      | .ref (.label n), _ => rfl
      | .op o, _ => cases o <;> rfl
    rw [diagnoseFrom_cons, diagnoseFrom_cons, hissue,
      ih fun u hu => hr u (List.mem_cons_of_mem t hu)]

/-- What a text can spell is diagnosed alike against any coins. -/
lemma diagnose_of_isReadable (hr : ∀ t ∈ r, t.IsReadable) (coins other : CoinSet) :
    r.diagnose coins = r.diagnose other :=
  diagnoseFrom_of_isReadable hr other

end Relation

end CoinQuery
