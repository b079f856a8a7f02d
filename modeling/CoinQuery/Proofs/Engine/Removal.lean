import CoinQuery.Proofs.Engine.Coherence
import CoinQuery.Proofs.Engine.Identity
import CoinQuery.Proofs.Relation.PrunedRow

/-!
# Removing coins

Removing a coin leaves the relation alone, so it is up to the caller when to reconcile: after every
removal, now and then, or once at the end.  Each time pruning finds other references stale and other
operators beside them, but for a relation without structural issues the outcome is the same.

The reason is `Relation.Clean.prune_prune`.  `Engine.Thinned` carries it through a plan of removals:
whatever was reconciled so far, pruning the relation against the coins that are left, or fewer, does
to it what it does to the relation at the beginning.  Labels stay out of it, since a label that
names no coin names none when there are fewer.
-/

namespace CoinQuery

/-- Taking out a coin and reconciling are what a plan of removals consists of. -/
def Operation.isThinning : Operation → Bool
  | .removeCoin _ | .reconcile => true
  | _ => false

namespace Engine

/-! ## The coins removed -/

/-- The id of the coin that an operation takes out of the set. -/
def removedBy (e : Engine) : Operation → Option CoinId
  | .removeCoin index => (e.removeCoin index).1.map Coin.id
  | _ => none

/-- The ids of the coins removed one by one in a run, in order. -/
def removed (e : Engine) (operations : List Operation) : List CoinId :=
  e.history removedBy operations

/-- A plan of removals, with the relation reconciled in between or not. -/
def Thinning (plan : List Operation) : Prop := ∀ o ∈ plan, o.isThinning = true

instance : DecidablePred Thinning := fun plan =>
  inferInstanceAs (Decidable (∀ o ∈ plan, o.isThinning = true))

lemma removedBy_of_found {e : Engine} {index : Nat} {coin : Coin}
    (h : e.coins[index]? = some coin) :
    e.removedBy (.removeCoin index) = some coin.id ∧
      (e.step (.removeCoin index)).2 = { e with coins := e.coins.eraseIdx index } := by
  simp [removedBy, step, removeCoin, h]

lemma removedBy_of_not_found {e : Engine} {index : Nat} (h : e.coins[index]? = none) :
    e.removedBy (.removeCoin index) = none ∧ (e.step (.removeCoin index)).2 = e := by
  simp [removedBy, step, removeCoin, h]

/-- Coins of the set can be removed in any order. -/
lemma exists_thinning {e : Engine} (hd : e.coins.Distinct) {ids : List CoinId} (hids : ids.Nodup)
    (hheld : ∀ id ∈ ids, e.coins.holds id = true) :
    ∃ plan, Thinning plan ∧ e.removed plan = ids := by
  induction ids generalizing e with
  | nil => exact ⟨[], by decide, rfl⟩
  | cons id ids ih =>
    obtain ⟨hfresh, hrest⟩ := List.nodup_cons.mp hids
    obtain ⟨c, hc, rfl⟩ := CoinSet.holds_iff.mp (hheld id List.mem_cons_self)
    obtain ⟨index, hindex⟩ := List.getElem?_of_mem hc
    obtain ⟨hremoved, hstep⟩ := removedBy_of_found hindex
    have hothers : ∀ other ∈ ids, CoinSet.holds (e.coins.eraseIdx index) other = true := by
      intro other hother
      obtain ⟨d, hdmem, rfl⟩ := CoinSet.holds_iff.mp (hheld other (List.mem_cons_of_mem _ hother))
      have hne : d.id ≠ c.id := fun heq => hfresh (heq ▸ hother)
      rw [CoinSet.eraseIdx_eq_filter hd hindex, CoinSet.holds_iff]
      exact ⟨d, List.mem_filter.mpr ⟨hdmem, by simpa using hne⟩, rfl⟩
    have hdistinct : CoinSet.Distinct (e.coins.eraseIdx index) :=
      hd.sublist (List.eraseIdx_sublist e.coins index)
    obtain ⟨plan, hplan, hplanned⟩ :=
      ih (e := { e with coins := e.coins.eraseIdx index }) hdistinct hrest hothers
    refine ⟨.removeCoin index :: plan, List.forall_mem_cons.mpr ⟨rfl, hplan⟩, ?_⟩
    rw [removed, history, hremoved, hstep]
    exact congrArg (c.id :: ·) hplanned

/-! ## The invariant of a plan -/

/-- What is left of an engine once these coins were removed. -/
structure Thinned (start e : Engine) (removed : List CoinId) : Prop where
  coins : e.coins = start.coins.filter (·.id ∉ removed)
  labels : e.relation.LabelsUnresolved e.coins
  prune : ∀ live : CoinSet, (∀ id, live.holds id = true → e.coins.holds id = true) →
    e.relation.prune live = start.relation.prune live

variable {start e : Engine} {removed : List CoinId}

/-- A coin that is taken out leaves fewer sets to prune against. -/
lemma Thinned.removeCoin (h : Thinned start e removed) (hd : e.coins.Distinct) (index : Nat) :
    Thinned start (e.step (.removeCoin index)).2
      (removed ++ (e.removedBy (.removeCoin index)).toList) := by
  cases hcoin : e.coins[index]? with
  | none =>
    obtain ⟨hremoved, hstep⟩ := removedBy_of_not_found hcoin
    rw [hremoved, hstep, Option.toList_none, List.append_nil]
    exact h
  | some coin =>
    obtain ⟨hremoved, hstep⟩ := removedBy_of_found hcoin
    have hsublist := List.eraseIdx_sublist e.coins index
    rw [hremoved, hstep, Option.toList_some]
    constructor
    case coins =>
      calc e.coins.eraseIdx index
          = e.coins.filter (·.id ≠ coin.id) := CoinSet.eraseIdx_eq_filter hd hcoin
        _ = (start.coins.filter (·.id ∉ removed)).filter (·.id ≠ coin.id) := by rw [← h.coins]
        _ = start.coins.filter (·.id ∉ removed ++ [coin.id]) := by
            rw [List.filter_filter]
            exact List.filter_congr fun c _ => by simp [and_comm]
    case labels =>
      intro n hn
      exact (h.labels n hn).imp_right fun hlt => lt_of_le_of_lt hsublist.length_le hlt
    case prune =>
      intro live hlive
      apply h.prune live
      intro id hid
      obtain ⟨c, hc, rfl⟩ := CoinSet.holds_iff.mp (hlive id hid)
      exact CoinSet.holds_iff.mpr ⟨c, hsublist.subset hc, rfl⟩

/-- Binding finds nothing to do, so reconciling is pruning. -/
lemma Thinned.relation_reconcile (h : Thinned start e removed) :
    (e.step .reconcile).2.relation = start.relation.prune e.coins := by
  have hlabels : (e.relation.prune e.coins).LabelsUnresolved e.coins := fun n hn =>
    h.labels n ((Relation.prune_sublist _ _).subset hn)
  calc (e.step .reconcile).2.relation
      = (e.relation.prune e.coins).bind e.coins := rfl
    _ = e.relation.prune e.coins := Relation.bind_eq_self hlabels
    _ = start.relation.prune e.coins := h.prune e.coins fun _ hid => hid

/-- Reconciling is pruning first against the coins there are, and the relation was clean. -/
lemma Thinned.reconcile (h : Thinned start e removed)
    (hclean : start.relation.Clean start.coins) :
    Thinned start (e.step .reconcile).2 removed where
  coins := h.coins
  labels := Relation.labelsUnresolved_bind _ _
  prune live hlive := by
    have hboth : live.InBoth e.coins live := by
      intro id
      cases hid : live.holds id with
      | false => rw [Bool.and_false]
      | true =>
        have hholds : e.coins.holds id = true := hlive id hid
        rw [hholds, Bool.and_true]
    rw [h.relation_reconcile]
    exact hclean.prune_prune hboth

lemma thinned_run (hd : start.coins.Distinct)
    (hlabels : start.relation.LabelsUnresolved start.coins)
    (hclean : start.relation.Clean start.coins) {plan : List Operation} (hplan : Thinning plan) :
    Thinned start (start.run plan) (start.removed plan) := by
  induction plan using List.reverseRecOn with
  | nil =>
    refine ⟨?_, hlabels, fun _ _ => rfl⟩
    exact (List.filter_eq_self.mpr fun _ _ => by simp [Engine.removed, history]).symm
  | append_singleton plan o ih =>
    obtain ⟨hplan, ho⟩ := List.forall_mem_append.mp hplan
    have h : Thinned start (start.run plan) (start.removed plan) := ih hplan
    rw [run_concat, Engine.removed, history_concat]
    cases o with
    | removeCoin index =>
      have hdistinct : (start.run plan).coins.Distinct := by
        rw [h.coins]
        exact hd.sublist List.filter_sublist
      exact h.removeCoin hdistinct index
    | reconcile =>
      have hnone : (start.run plan).removedBy .reconcile = none := rfl
      rw [hnone, Option.toList_none, List.append_nil]
      exact h.reconcile hclean
    | _ => exact absurd (ho _ List.mem_cons_self) (by simp [Operation.isThinning])

/-- **The order of removals and the time of reconciling do not matter.**  On any relation whose
parentheses match and whose operators do not lack an operand, pruning against one set of coins and
then against another is pruning against the coins in both.  So for an engine with such a relation,
after any run, what a plan of removals leaves when it ends with reconciling depends only on which
coins it removes: the coins that are left, the relation pruned against them, and its text.  And
every set of coins can be removed, in any order. -/
theorem removals_agree :
    (∀ (r : Relation) (coins first second both : CoinSet),
      (∀ issue ∈ r.diagnose coins, issue.isStructural = false) → both.InBoth first second →
      (r.prune first).prune second = r.prune both) ∧
    ∀ (config : Config) (operations : List Operation),
      let e := (ofConfig config).run operations
      (∀ issue ∈ e.diagnose, issue.isStructural = false) →
      (∀ plan, Thinning plan →
        let f := e.run (plan ++ [.reconcile])
        f.coins = e.coins.filter (·.id ∉ e.removed plan) ∧
        f.relation = e.relation.prune f.coins ∧ f.relationText = f.relation.text f.coins) ∧
      (∀ plan other, Thinning plan → Thinning other →
        (∀ id, id ∈ e.removed plan ↔ id ∈ e.removed other) →
        (e.run (plan ++ [.reconcile])).relation = (e.run (other ++ [.reconcile])).relation ∧
        (e.run (plan ++ [.reconcile])).relationText =
          (e.run (other ++ [.reconcile])).relationText) ∧
      ∀ ids : List CoinId, ids.Nodup → (∀ id ∈ ids, e.coins.holds id = true) →
        ∃ plan, Thinning plan ∧ e.removed plan = ids := by
  refine ⟨fun r coins first second both hclean hboth =>
    Relation.Clean.prune_prune hclean hboth, ?_⟩
  intro config operations e hclean
  have hd : e.coins.Distinct := (ascending_coins config operations).distinct
  have hlabels : e.relation.LabelsUnresolved e.coins := (coherent_run config operations).labels
  have hplan : ∀ plan, Thinning plan →
      let f := e.run (plan ++ [.reconcile])
      f.coins = e.coins.filter (·.id ∉ e.removed plan) ∧
      f.relation = e.relation.prune f.coins ∧ f.relationText = f.relation.text f.coins := by
    intro plan hthinning f
    have h : Thinned e (e.run plan) (e.removed plan) := thinned_run hd hlabels hclean hthinning
    have hf : f = ((e.run plan).step .reconcile).2 := run_concat e plan .reconcile
    rw [hf]
    exact ⟨h.coins, h.relation_reconcile, rfl⟩
  refine ⟨hplan, ?_, fun ids hids hheld => exists_thinning hd hids hheld⟩
  intro plan other hthinning hthinning' hsame
  obtain ⟨hcoins, hrelation, htext⟩ := hplan plan hthinning
  obtain ⟨hcoins', hrelation', htext'⟩ := hplan other hthinning'
  have hleft : (e.run (plan ++ [.reconcile])).coins = (e.run (other ++ [.reconcile])).coins := by
    rw [hcoins, hcoins']
    exact List.filter_congr fun c _ => by simp [hsame c.id]
  constructor
  · rw [hrelation, hrelation', hleft]
  · rw [htext, htext', hrelation, hrelation', hleft]

/-- Two coins of a negated group are removed from either end, with the relation reconciled in
between and not.  The group goes with them, and the empty group beside it stays. -/
theorem removals_agree_either_end :
    let e := (ofConfig .default).run
      [.addCoin, .addCoin, .addCoin, .setRelationText "C1 AND NOT (C2 OR C3)()"]
    let f := e.run ([.removeCoin 1, .reconcile, .removeCoin 1] ++ [.reconcile])
    let g := e.run ([.removeCoin 2, .removeCoin 1] ++ [.reconcile])
    let first := e.coins.eraseIdx 1
    let second := e.coins.eraseIdx 2
    (f.relation = g.relation ∧ f.relationText = g.relationText ∧ f.relationText = "C1()") ∧
    (e.relation.prune first).prune second = e.relation.prune (e.coins.take 1) ∧
    ∃ plan, Thinning plan ∧ e.removed plan = [⟨3⟩, ⟨1⟩] := by
  intro e f g first second
  obtain ⟨hprune, hrun⟩ := removals_agree
  have hclean : ∀ issue ∈ e.diagnose, issue.isStructural = false := by decide +kernel
  obtain ⟨-, hplans, hevery⟩ := hrun .default
    [.addCoin, .addCoin, .addCoin, .setRelationText "C1 AND NOT (C2 OR C3)()"] hclean
  have hsame : e.removed [.removeCoin 1, .reconcile, .removeCoin 1] = [⟨2⟩, ⟨3⟩] ∧
      e.removed [.removeCoin 2, .removeCoin 1] = [⟨3⟩, ⟨2⟩] := ⟨rfl, rfl⟩
  obtain ⟨hrelation, htext⟩ := hplans [.removeCoin 1, .reconcile, .removeCoin 1]
    [.removeCoin 2, .removeCoin 1] (by decide) (by decide) (by
      intro id
      rw [hsame.1, hsame.2]
      simp [or_comm])
  have hboth : CoinSet.InBoth (e.coins.take 1) first second := by
    intro id
    have hcoins : e.coins = [⟨⟨1⟩, .empty⟩, ⟨⟨2⟩, .empty⟩, ⟨⟨3⟩, .empty⟩] := rfl
    rw [Bool.eq_iff_iff, Bool.and_eq_true, CoinSet.holds_iff, CoinSet.holds_iff,
      CoinSet.holds_iff]
    grind
  refine ⟨⟨hrelation, htext, by decide +kernel⟩, ?_, ?_⟩
  · exact hprune e.relation e.coins first second _ hclean hboth
  · exact hevery [⟨3⟩, ⟨1⟩] (by decide) (by decide)

end Engine

end CoinQuery
