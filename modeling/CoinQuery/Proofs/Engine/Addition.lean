import CoinQuery.Proofs.Engine.Coherence
import CoinQuery.Proofs.Engine.Identity

/-!
# Adding a coin

A coin that is added is put behind the relation with `OR`.  On the way the relation is pruned
against the set with the new coin, is pruned once more and bound against it; reconciling would prune
and bind it against the set without.  The two agree because nothing in the relation can mean the new
coin yet: its id is above all ids that the relation refers to, so the same references are stale, and
a label that now names it shows the same text before and after it is bound.

The main result is `Engine.addCoin_extends`: the text of the request is the text that reconciling
would give, with the new label at its end.
-/

namespace CoinQuery

/-! ## A set with one more coin -/

namespace CoinSet

variable {coins : CoinSet} {last : Coin} {id : CoinId}

lemma position?_concat_of_ne (h : id ≠ last.id) :
    CoinSet.position? (coins ++ [last]) id = coins.position? id := by
  simp [position?, List.findIdx?_append, Ne.symm h]

lemma position?_concat_self (hd : Distinct (coins ++ [last])) :
    CoinSet.position? (coins ++ [last]) last.id = some coins.length :=
  position?_of_idAt? hd (by simp [idAt?])

end CoinSet

/-! ## Text -/

lemma Coin.label_ne_empty (n : Nat) : Coin.label n ≠ "" := by
  intro h
  have hchars := congrArg String.toList h
  rw [Coin.toList_label] at hchars
  cases hchars

lemma Token.text_ne_empty (t : Token) (coins : CoinSet) : t.text coins ≠ "" := by
  match t with
  | .ref (.coin id) =>
    cases hp : coins.position? id with
    | none =>
      rw [Token.text, Reference.text_of_gone (by simp [CoinSet.holds, hp])]
      decide
    | some p =>
      rw [Token.text, Reference.text_of_position? hp]
      exact Coin.label_ne_empty (p + 1)
  | .ref (.label n) => exact Coin.label_ne_empty n
  | .op o => cases o <;> simp [Token.text, Operator.text]

variable {coins : CoinSet} {last : Coin}

/-- What does not refer to the last coin is shown as in the set without. -/
lemma Token.text_concat {t : Token} (h : t ≠ .coin last.id) :
    t.text (coins ++ [last]) = t.text coins := by
  match t with
  | .ref (.coin id) =>
    have hid : id ≠ last.id := fun heq => h (by rw [heq])
    simp [Token.text, Reference.text, CoinSet.labelOf?, CoinSet.position?_concat_of_ne hid]
  | .ref (.label n) => rfl
  | .op o => rfl

lemma Token.isStale_concat {t : Token} (h : t ≠ .coin last.id) :
    t.isStale (coins ++ [last]) = t.isStale coins := by
  match t with
  | .ref (.coin id) =>
    have hid : id ≠ last.id := fun heq => h (by rw [heq])
    simp [Token.isStale, CoinSet.holds, CoinSet.position?_concat_of_ne hid]
  | .ref (.label n) => rfl
  | .op o => rfl

lemma Token.IsOwn.isStale_eq_false {t : Token} (h : t.IsOwn coins) : t.isStale coins = false := by
  match t, h with
  | .ref (.coin id), hid =>
    have hholds : coins.holds id = true := hid
    simp [Token.isStale, hholds]
  | .ref (.label n), _ => rfl
  | .op o, _ => rfl

namespace Relation

lemma text_append (r s : Relation) (coins : CoinSet) :
    text (r ++ s) coins = r.text coins ++ s.text coins := by
  simp [text, String.join_append]

lemma text_congr {r : Relation} {coins other : CoinSet}
    (h : ∀ t ∈ r, t.text coins = t.text other) : r.text coins = r.text other := by
  rw [text, text, List.map_congr_left h]

/-- Only the empty relation has an empty text. -/
lemma text_eq_empty_iff {r : Relation} {coins : CoinSet} : r.text coins = "" ↔ r = [] := by
  cases r with
  | nil => exact iff_of_true rfl rfl
  | cons t r =>
    have htoken : t.text coins ≠ "" := t.text_ne_empty coins
    have hsplit : text (t :: r) coins = t.text coins ++ text r coins := by
      simp [text, String.join_cons]
    simp [hsplit, htoken]

end Relation

namespace Engine

/-- No reference means a coin that is still to be struck. -/
lemma raw_le_of_mem_relation (config : Config) (operations : List Operation) :
    ∀ id, Token.coin id ∈ ((ofConfig config).run operations).relation →
      id.raw ≤ ((ofConfig config).run operations).mint.lastId := by
  induction operations using List.reverseRecOn with
  | nil => intro id hid; cases hid
  | append_singleton operations o ih =>
    have hcoins : ∀ c ∈ ((ofConfig config).run (operations ++ [o])).coins,
        c.id.raw ≤ ((ofConfig config).run (operations ++ [o])).mint.lastId :=
      fun c hc => raw_le_lastId config (operations ++ [o]) hc
    rw [run_concat] at hcoins ⊢
    have heffect := ((ofConfig config).run operations).step_effect o
    generalize (((ofConfig config).run operations).step o).1 = reply,
      (((ofConfig config).run operations).step o).2 = next at heffect hcoins ⊢
    cases heffect with
    | aside _ _ same =>
      have hrelation : next.relation = ((ofConfig config).run operations).relation :=
        congrArg Compiled.relation same
      have hid : next.mint.lastId = ((ofConfig config).run operations).mint.lastId :=
        congrArg Compiled.lastId same
      rwa [hrelation, hid]
    | removal _ => exact ih
    | synced edited edit =>
      -- whatever was given, a sync leaves references to coins of the set alone
      intro id hid
      have hlive := Relation.stale_eq_nil_iff.mp (inStep_sync edited).live _ hid
      have hholds : edited.sync.2.coins.holds id = true := by simpa [Token.isStale] using hlive
      obtain ⟨c, hc, rfl⟩ := CoinSet.holds_iff.mp hholds
      exact hcoins c hc

/-- The text that reconciling gives is that of the pruned relation: binding does not show. -/
lemma relation_reconcile {e : Engine} (hd : e.coins.Distinct) :
    e.reconcile.1.relation = (e.relation.prune e.coins).text e.coins :=
  Relation.text_bind hd _

/-- What is left of the relation is followed by the new coin.  Pruning it once more finds nothing,
and binding does not show. -/
lemma relation_addCoin {e : Engine} (hd : CoinSet.Distinct (e.coins ++ [e.mint.strike.1])) :
    e.addCoin.1.relation = Relation.text (Relation.followSize
      (e.relation.prune (e.coins ++ [e.mint.strike.1])) (e.coins ++ [e.mint.strike.1]))
      (e.coins ++ [e.mint.strike.1]) := by
  let coins := e.coins ++ [e.mint.strike.1]
  have hlive : ((e.relation.prune coins).followSize coins).stale coins = [] := by
    rw [Relation.stale_eq_nil_iff]
    intro t ht
    rcases Relation.mem_followSize ht with hleft | hown
    · exact Relation.stale_eq_nil_iff.mp (Relation.stale_prune _ _) t hleft
    · exact hown.isStale_eq_false
  calc e.addCoin.1.relation
      = Relation.text ((((e.relation.prune coins).followSize coins).prune coins).bind coins)
          coins := rfl
    _ = Relation.text ((e.relation.prune coins).followSize coins) coins := by
        rw [Relation.text_bind hd, Relation.prune_eq_self hlive]

/-- Where nothing in the relation means the new coin, the set with it and the set without differ in
the new label alone. -/
lemma relation_addCoin_of_new {e : Engine} (hdold : e.coins.Distinct)
    (hd : CoinSet.Distinct (e.coins ++ [e.mint.strike.1]))
    (hnew : ∀ t ∈ e.relation, t ≠ .coin e.mint.strike.1.id) :
    e.addCoin.1.relation =
      if e.reconcile.1.relation = "" then Coin.label (e.coins.length + 1)
      else e.reconcile.1.relation ++ " OR " ++ Coin.label (e.coins.length + 1) := by
  have hprune : e.relation.prune (e.coins ++ [e.mint.strike.1]) = e.relation.prune e.coins :=
    Relation.prune_congr fun t ht => Token.isStale_concat (hnew t ht)
  have hshown : (e.relation.prune e.coins).text (e.coins ++ [e.mint.strike.1]) =
      (e.relation.prune e.coins).text e.coins :=
    Relation.text_congr fun t ht =>
      Token.text_concat (hnew t ((Relation.prune_sublist e.relation e.coins).subset ht))
  have hlast : Relation.text [.coin e.mint.strike.1.id] (e.coins ++ [e.mint.strike.1]) =
      Coin.label (e.coins.length + 1) := by
    simp [Relation.text, Token.text,
      Reference.text_of_position? (CoinSet.position?_concat_self hd)]
  rw [relation_addCoin hd, hprune, relation_reconcile hdold, Relation.followSize,
    List.getLast?_concat]
  by_cases hnone : e.relation.prune e.coins = []
  · simp only [hnone, if_true, hlast]
    rfl
  · have htext : (e.relation.prune e.coins).text e.coins ≠ "" :=
      mt Relation.text_eq_empty_iff.mp hnone
    simp only [hnone, htext, if_false]
    rw [← List.singleton_append, ← List.append_assoc, Relation.text_append, Relation.text_append,
      hshown, hlast]
    rfl

/-- **Adding a coin extends the reconciled relation** and nothing else: in every state that a run of
a fresh engine can reach, whatever the relation refers to there, the text of the request is the text
that reconciling would give, followed by `OR` and the new label, or the new label alone if that text
is empty. -/
theorem addCoin_extends (config : Config) (operations : List Operation) :
    let e := (ofConfig config).run operations
    let text := e.reconcile.1.relation
    let label := Coin.label (e.coins.length + 1)
    e.addCoin.1.relation = if text = "" then label else text ++ " OR " ++ label := by
  intro e text label
  have hd : e.addCoin.2.coins.Distinct := by
    have h := ascending_coins config (operations ++ [.addCoin])
    rw [run_concat] at h
    exact h.distinct
  refine relation_addCoin_of_new (ascending_coins config operations).distinct hd ?_
  rintro t ht rfl
  exact absurd (raw_le_of_mem_relation config operations _ ht) (Nat.not_succ_le_self _)

end Engine

end CoinQuery
