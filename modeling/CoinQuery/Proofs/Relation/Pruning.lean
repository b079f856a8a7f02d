import CoinQuery.Proofs.Relation.Binding

/-!
# What pruning keeps

The pass over a relation is described by what one gap and one token do.  Closing a gap only takes
tokens off the two ends that meet there (`Relation.closeGap_suffix`); a stale reference closes a gap
and any other token is passed (`Relation.prunedFrom_stale`, `Relation.prunedFrom_live`).

From these follow, for any sequence of tokens: what is left is part of the relation
(`Relation.prune_sublist`), no stale reference is left (`Relation.stale_prune`), and a relation
without stale references is left as it is (`Relation.prune_eq_self`).
-/

namespace CoinQuery.Relation

variable {coins : CoinSet}

/-! ## Gaps -/

lemma dropBinary_suffix (r : Relation) : dropBinary r <:+ r := by
  cases r with
  | nil => exact List.suffix_refl _
  | cons t r =>
    rw [dropBinary]
    split
    · exact List.suffix_cons t r
    · exact List.suffix_refl _

lemma dropOperator_suffix (before after : Relation) :
    (dropOperator before after).1 <:+ before ∧ (dropOperator before after).2 <:+ after := by
  cases before with
  | nil => exact ⟨List.suffix_refl _, dropBinary_suffix after⟩
  | cons b before =>
    rw [dropOperator]
    split
    · exact ⟨List.suffix_cons b before, List.suffix_refl _⟩
    · exact ⟨List.suffix_refl _, dropBinary_suffix after⟩

/-- Closing a gap takes tokens off where both sides meet. -/
lemma closeGap_suffix (before after : Relation) :
    (closeGap before after).1 <:+ before ∧ (closeGap before after).2 <:+ after := by
  -- what happens at a gap before an empty group is looked for
  have hstep : ∀ before after : Relation,
      (dropOperator (before.dropWhile (· = .op .not)) after).1 <:+ before ∧
        (dropOperator (before.dropWhile (· = .op .not)) after).2 <:+ after := fun before after =>
    ⟨(dropOperator_suffix _ after).1.trans (List.dropWhile_suffix _),
      (dropOperator_suffix _ after).2⟩
  fun_induction closeGap before after with
  | case1 before after before' after' h ih =>
    obtain ⟨hbefore, hafter⟩ := hstep before after
    rw [h] at hbefore hafter
    exact ⟨(ih.1.trans (List.suffix_cons _ _)).trans hbefore,
      (ih.2.trans (List.suffix_cons _ _)).trans hafter⟩
  | case2 before after _ => exact hstep before after

/-! ## The pass -/

/-- The tokens that pruning `after` leaves behind `before`. -/
def prunedFrom (coins : CoinSet) (before after : Relation) : Relation :=
  (pruneFrom coins before after 0).1

/-- What is left does not depend on what was counted. -/
lemma fst_pruneFrom (before after : Relation) (count : Nat) :
    (pruneFrom coins before after count).1 = prunedFrom coins before after := by
  -- both counts start anywhere, since the pass raises them on its way
  suffices h : ∀ count' : Nat,
      (pruneFrom coins before after count).1 = (pruneFrom coins before after count').1 from h 0
  fun_induction pruneFrom coins before after count with
  | case1 before count => intro count'; rw [pruneFrom]
  | case2 before count t after hstale ih =>
    intro count'
    rw [ih (count' + 1), pruneFrom.eq_def coins before (t :: after) count']
    simp only [hstale, if_true]
  | case3 before count t after hlive ih =>
    intro count'
    rw [ih count', pruneFrom.eq_def coins before (t :: after) count']
    simp only [hlive, Bool.false_eq_true, if_false]

lemma prune_eq_prunedFrom (r : Relation) (coins : CoinSet) :
    r.prune coins = prunedFrom coins [] r := rfl

@[simp] lemma prunedFrom_nil (before : Relation) : prunedFrom coins before [] = before.reverse := by
  rw [prunedFrom, pruneFrom]

lemma prunedFrom_stale {t : Token} (h : t.isStale coins = true) (before after : Relation) :
    prunedFrom coins before (t :: after) =
      prunedFrom coins (closeGap before after).1 (closeGap before after).2 := by
  rw [prunedFrom, pruneFrom, if_pos h, fst_pruneFrom]

lemma prunedFrom_live {t : Token} (h : t.isStale coins = false) (before after : Relation) :
    prunedFrom coins before (t :: after) = prunedFrom coins (t :: before) after := by
  rw [prunedFrom, pruneFrom, if_neg (by rw [h]; exact Bool.false_ne_true), fst_pruneFrom]

/-- Pruning passes over live tokens. -/
lemma prunedFrom_append_of_live {passed : Relation} (h : ∀ t ∈ passed, t.isStale coins = false)
    (before after : Relation) :
    prunedFrom coins before (passed ++ after) =
      prunedFrom coins (passed.reverse ++ before) after := by
  induction passed generalizing before with
  | nil => rfl
  | cons t passed ih =>
    rw [List.cons_append, prunedFrom_live (h t List.mem_cons_self),
      ih fun u hu => h u (List.mem_cons_of_mem t hu)]
    simp

/-- The set matters only for which tokens are stale. -/
lemma prunedFrom_congr {other : CoinSet} (before after : Relation)
    (h : ∀ t ∈ after, t.isStale coins = t.isStale other) :
    prunedFrom coins before after = prunedFrom other before after := by
  rw [← fst_pruneFrom before after 0]
  fun_induction pruneFrom coins before after 0 with
  | case1 before count => rw [prunedFrom_nil]
  | case2 before count t after hstale ih =>
    have hother : t.isStale other = true := (h t List.mem_cons_self).symm.trans hstale
    rw [prunedFrom_stale hother]
    exact ih fun u hu =>
      h u (List.mem_cons_of_mem t ((closeGap_suffix before after).2.subset hu))
  | case3 before count t after hlive ih =>
    have hother : t.isStale other = false := by
      rw [← h t List.mem_cons_self]
      simpa using hlive
    rw [prunedFrom_live hother]
    exact ih fun u hu => h u (List.mem_cons_of_mem t hu)

/-! ## What is left -/

/-- Nothing is made anew and nothing changes places. -/
lemma prunedFrom_sublist (coins : CoinSet) (before after : Relation) :
    (prunedFrom coins before after).Sublist (before.reverse ++ after) := by
  rw [← fst_pruneFrom before after 0]
  fun_induction pruneFrom coins before after 0 with
  | case1 before count => simp
  | case2 before count t after hstale ih =>
    obtain ⟨hbefore, hafter⟩ := closeGap_suffix before after
    refine ih.trans (List.Sublist.append ?_ ?_)
    · exact (List.reverse_prefix.mpr hbefore).sublist
    · exact hafter.sublist.cons t
  | case3 before count t after hlive ih => simpa using ih

lemma isStale_of_mem_prunedFrom {before : Relation} (h : ∀ t ∈ before, t.isStale coins = false)
    (after : Relation) : ∀ t ∈ prunedFrom coins before after, t.isStale coins = false := by
  rw [← fst_pruneFrom before after 0]
  fun_induction pruneFrom coins before after 0 with
  | case1 before count => exact fun t ht => h t (List.mem_reverse.mp ht)
  | case2 before count t after hstale ih =>
    exact ih fun u hu => h u ((closeGap_suffix before after).1.subset hu)
  | case3 before count t after hlive ih =>
    apply ih
    intro u hu
    rcases List.mem_cons.mp hu with rfl | hu
    · simpa using hlive
    · exact h u hu

lemma prune_congr {r : Relation} {other : CoinSet}
    (h : ∀ t ∈ r, t.isStale coins = t.isStale other) : r.prune coins = r.prune other :=
  prunedFrom_congr [] r h

/-- What pruning leaves is part of the relation, in its order. -/
lemma prune_sublist (r : Relation) (coins : CoinSet) : (r.prune coins).Sublist r := by
  rw [prune_eq_prunedFrom]
  simpa using prunedFrom_sublist coins [] r

/-- Pruning leaves no stale reference. -/
lemma stale_prune (r : Relation) (coins : CoinSet) : (r.prune coins).stale coins = [] :=
  stale_eq_nil_iff.mpr (isStale_of_mem_prunedFrom (by simp) r)

/-- A relation without stale references is left as it is. -/
lemma prune_eq_self {r : Relation} (h : r.stale coins = []) : r.prune coins = r := by
  have hpass := prunedFrom_append_of_live (stale_eq_nil_iff.mp h) [] []
  rw [List.append_nil, List.append_nil, prunedFrom_nil, List.reverse_reverse] at hpass
  exact hpass

end CoinQuery.Relation
