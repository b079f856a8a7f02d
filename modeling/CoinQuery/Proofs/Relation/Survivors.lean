import CoinQuery.Proofs.Relation.Pruning

/-!
# What survives pruning

When an operand is taken out of a relation, what goes with it are words of operators and empty
groups, never another reference.  So whatever is read off a relation without looking at these is the
same once the gap is closed (`Relation.Overlooks.closeGap`), and the same once the relation is
pruned if stale references do not count for it either (`Relation.Overlooks.prune`).  The references
of a relation are read off in this way, and so is the number of stale ones among them.

Pruning can be told in another way, as a loop that takes out the first stale reference as long as
there is one (`Relation.Loses`).  Each round leaves one stale reference less and changes nothing in
what pruning leaves, so the loop ends, after as many rounds as there were stale references, with the
pruned relation (`Relation.losesIn_iff`).

The main result `Relation.prune_keeps_live` speaks of any sequence of tokens, whether it makes sense
or not.
-/

namespace CoinQuery

/-- What a token refers to. -/
def Token.reference? : Token → Option Reference
  | .ref target => some target
  | .op _ => none

/-- Whether a reference is a label or refers to a coin of the set. -/
def Reference.isLive (coins : CoinSet) (target : Reference) : Bool :=
  !(Token.ref target).isStale coins

namespace Relation

variable {coins : CoinSet} {α : Type}

/-- The references of a relation, to coins and to labels, in order. -/
def references (r : Relation) : List Reference := r.filterMap Token.reference?

/-! ## Overlooking operators -/

/-- A view of relations that does not tell whether the word of an operator, or an empty group,
stands at some place. -/
structure Overlooks (view : Relation → α) : Prop where
  word : ∀ (front : Relation) (o : Operator) (back : Relation), o ≠ .openParen → o ≠ .closeParen →
    view (front ++ .op o :: back) = view (front ++ back)
  emptyGroup : ∀ front back : Relation,
    view (front ++ .op .openParen :: .op .closeParen :: back) = view (front ++ back)

/-- What is picked out of the references overlooks all operators. -/
lemma overlooks_filterMap {f : Token → Option α} (h : ∀ o, f (.op o) = none) :
    Overlooks (List.filterMap f) where
  word front o back _ _ := by simp [List.filterMap_append, h]
  emptyGroup front back := by simp [List.filterMap_append, h]

variable {view : Relation → α}

lemma Overlooks.binary (h : Overlooks view) {t : Token} (ht : t.isBinary = true)
    (front back : Relation) : view (front ++ t :: back) = view (front ++ back) := by
  match t, ht with
  | .op .and, _ => exact h.word front .and back (by decide) (by decide)
  | .op .or, _ => exact h.word front .or back (by decide) (by decide)

lemma Overlooks.dropWhile_not (h : Overlooks view) (before after : Relation) :
    view ((before.dropWhile (· = .op .not)).reverse ++ after) = view (before.reverse ++ after) := by
  induction before with
  | nil => rfl
  | cons t before ih =>
    by_cases ht : t = .op .not
    · have hword : view (before.reverse ++ .op .not :: after) = view (before.reverse ++ after) :=
        h.word before.reverse .not after (by decide) (by decide)
      rw [List.dropWhile_cons_of_pos (by simpa using ht), ih, ht, List.reverse_cons,
        List.append_assoc, List.singleton_append, hword]
    · rw [List.dropWhile_cons_of_neg (by simpa using ht)]

lemma Overlooks.dropBinary (h : Overlooks view) (before after : Relation) :
    view (before ++ Relation.dropBinary after) = view (before ++ after) := by
  cases after with
  | nil => rfl
  | cons t after =>
    rw [Relation.dropBinary]
    split
    · rename_i ht
      exact (h.binary ht before after).symm
    · rfl

lemma Overlooks.dropOperator (h : Overlooks view) (before after : Relation) :
    view ((Relation.dropOperator before after).1.reverse ++
      (Relation.dropOperator before after).2) = view (before.reverse ++ after) := by
  cases before with
  | nil => exact h.dropBinary [] after
  | cons t before =>
    rw [Relation.dropOperator]
    split
    · rename_i ht
      rw [List.reverse_cons, List.append_assoc, List.singleton_append]
      exact (h.binary ht before.reverse after).symm
    · exact h.dropBinary (t :: before).reverse after

/-- Closing a gap shows in no view that overlooks operators. -/
lemma Overlooks.closeGap (h : Overlooks view) (before after : Relation) :
    view ((Relation.closeGap before after).1.reverse ++ (Relation.closeGap before after).2) =
      view (before.reverse ++ after) := by
  -- what happens at a gap before an empty group is looked for
  have hstep : ∀ before after : Relation,
      let gap := Relation.dropOperator (before.dropWhile (· = .op .not)) after
      view (gap.1.reverse ++ gap.2) = view (before.reverse ++ after) := fun before after =>
    (h.dropOperator _ after).trans (h.dropWhile_not before after)
  fun_induction Relation.closeGap before after with
  | case1 before after before' after' hgroup ih =>
    have hgap := hstep before after
    simp only [hgroup, List.reverse_cons, List.append_assoc, List.singleton_append] at hgap
    rw [ih, ← hgap, h.emptyGroup]
  | case2 before after _ => exact hstep before after

lemma Overlooks.prunedFrom (h : Overlooks view)
    (hstale : ∀ (front : Relation) (t : Token) (back : Relation), t.isStale coins = true →
      view (front ++ t :: back) = view (front ++ back)) (before after : Relation) :
    view (Relation.prunedFrom coins before after) = view (before.reverse ++ after) := by
  rw [← fst_pruneFrom before after 0]
  fun_induction pruneFrom coins before after 0 with
  | case1 before count => rw [List.append_nil]
  | case2 before count t after ht ih => rw [ih, h.closeGap, hstale before.reverse t after ht]
  | case3 before count t after hlive ih => simpa using ih

/-- Pruning shows in no view that overlooks stale references, too. -/
lemma Overlooks.prune (h : Overlooks view)
    (hstale : ∀ (front : Relation) (t : Token) (back : Relation), t.isStale coins = true →
      view (front ++ t :: back) = view (front ++ back)) (r : Relation) :
    view (r.prune coins) = view r :=
  h.prunedFrom hstale [] r

/-! ## References -/

lemma references_prune (r : Relation) (coins : CoinSet) :
    (r.prune coins).references = r.references.filter (Reference.isLive coins) := by
  have hview : ∀ s : Relation, s.references.filter (Reference.isLive coins) =
      s.filterMap fun t => t.reference?.filter (Reference.isLive coins) := fun s =>
    List.filter_filterMap
  have hkept : (r.prune coins).references.filter (Reference.isLive coins) =
      r.references.filter (Reference.isLive coins) := by
    rw [hview, hview]
    refine (overlooks_filterMap fun o => rfl).prune ?_ r
    intro front t back ht
    match t with
    | .ref target => simp [List.filterMap_append, Token.reference?, Reference.isLive, ht]
  have hall : ∀ target ∈ (r.prune coins).references, target.isLive coins = true := by
    intro target htarget
    obtain ⟨t, ht, hreference⟩ := List.mem_filterMap.mp htarget
    match t, hreference with
    | .ref _, rfl =>
      rw [Reference.isLive, stale_eq_nil_iff.mp (stale_prune r coins) _ ht]
      rfl
  rw [← hkept, List.filter_eq_self.mpr hall]

/-! ## Counting -/

lemma overlooks_stale (coins : CoinSet) : Overlooks fun r => r.stale coins :=
  overlooks_filterMap fun _ => rfl

lemma length_stale_append_cons {t : Token} (h : t.isStale coins = true) (front back : Relation) :
    (stale (front ++ t :: back) coins).length = (stale (front ++ back) coins).length + 1 := by
  match t with
  | .ref (.coin id) =>
    have hgone : coins.holds id = false := by simpa [Token.isStale] using h
    simp only [stale, List.filterMap_append, List.filterMap_cons, hgone, List.length_append,
      Bool.false_eq_true, if_false, List.length_cons]
    omega

lemma snd_pruneFrom {before : Relation} (h : ∀ t ∈ before, t.isStale coins = false)
    (after : Relation) (count : Nat) :
    (pruneFrom coins before after count).2 =
      count + (stale (before.reverse ++ after) coins).length := by
  fun_induction pruneFrom coins before after count with
  | case1 before count =>
    have hnone : stale (before.reverse ++ []) coins = [] :=
      stale_eq_nil_iff.mpr fun t ht => h t (by simpa using ht)
    rw [hnone, List.length_nil, Nat.add_zero]
  | case2 before count t after ht ih =>
    have hlive : ∀ u ∈ (closeGap before after).1, u.isStale coins = false := fun u hu =>
      h u ((closeGap_suffix before after).1.subset hu)
    rw [ih hlive, (overlooks_stale coins).closeGap, length_stale_append_cons ht]
    omega
  | case3 before count t after ht ih =>
    have hlive : ∀ u ∈ t :: before, u.isStale coins = false :=
      List.forall_mem_cons.mpr ⟨by simpa using ht, h⟩
    rw [ih hlive]
    simp

lemma pruneCount_eq (r : Relation) (coins : CoinSet) :
    r.pruneCount coins = (r.stale coins).length := by
  have hcount : (pruneFrom coins [] r 0).2 = 0 + (stale r coins).length :=
    snd_pruneFrom (by simp) r 0
  simpa [pruneCount] using hcount

/-! ## One reference after the other -/

/-- The first stale reference of a relation is taken out as an operand. -/
inductive Loses (coins : CoinSet) : Relation → Relation → Prop
  | first {front : Relation} {t : Token} {back : Relation}
      (passed : ∀ u ∈ front, u.isStale coins = false) (found : t.isStale coins = true) :
      Loses coins (front ++ t :: back)
        ((closeGap front.reverse back).1.reverse ++ (closeGap front.reverse back).2)

/-- So many rounds of a loop that takes out the first stale reference lead to `final`. -/
inductive LosesIn (coins : CoinSet) : Nat → Relation → Relation → Prop
  | none (r : Relation) : LosesIn coins 0 r r
  | round {n : Nat} {r next final : Relation} (head : Loses coins r next)
      (tail : LosesIn coins n next final) : LosesIn coins (n + 1) r final

variable {r next final : Relation}

/-- A round changes nothing in what pruning leaves. -/
lemma Loses.prune_eq (h : Loses coins r next) : r.prune coins = next.prune coins := by
  obtain ⟨passed, found⟩ := h
  rename_i front t back
  have hfront : ∀ u ∈ (closeGap front.reverse back).1.reverse, u.isStale coins = false := by
    intro u hu
    have hmem : u ∈ front.reverse :=
      (closeGap_suffix front.reverse back).1.subset (List.mem_reverse.mp hu)
    exact passed u (List.mem_reverse.mp hmem)
  rw [prune_eq_prunedFrom, prune_eq_prunedFrom, prunedFrom_append_of_live passed,
    prunedFrom_append_of_live hfront, prunedFrom_stale found]
  simp

/-- A round leaves one stale reference less. -/
lemma Loses.length_stale (h : Loses coins r next) :
    (r.stale coins).length = (next.stale coins).length + 1 := by
  obtain ⟨passed, found⟩ := h
  rename_i front t back
  have hgap := (overlooks_stale coins).closeGap front.reverse back
  rw [List.reverse_reverse] at hgap
  rw [hgap, length_stale_append_cons found]

/-- As long as there is a stale reference, there is a round. -/
lemma exists_loses (h : r.stale coins ≠ []) : ∃ next, Loses coins r next := by
  obtain ⟨t, ht, hstale⟩ : ∃ t ∈ r, t.isStale coins = true := by
    by_contra! hnone
    exact h (stale_eq_nil_iff.mpr fun t ht => Bool.eq_false_iff.mpr (hnone t ht))
  obtain ⟨u, front, back, passed, found, rfl, -⟩ := List.exists_of_eraseP ht hstale
  exact ⟨_, .first (fun v hv => by simpa using passed v hv) found⟩

lemma exists_losesIn : ∀ {n : Nat} {r : Relation}, (r.stale coins).length = n →
    LosesIn coins n r (r.prune coins)
  | 0, r, h => by
    rw [prune_eq_self (List.length_eq_zero_iff.mp h)]
    exact .none r
  | n + 1, r, h => by
    have hsome : r.stale coins ≠ [] := by
      intro hnone
      rw [hnone] at h
      cases h
    obtain ⟨next, hround⟩ := exists_loses hsome
    have hnext : (next.stale coins).length = n := by
      have hless := hround.length_stale
      omega
    rw [hround.prune_eq]
    exact .round hround (exists_losesIn hnext)

lemma LosesIn.eq_prune {n : Nat} (h : LosesIn coins n r final) (hlive : final.stale coins = []) :
    n = (r.stale coins).length ∧ final = r.prune coins := by
  induction h with
  | none r => exact ⟨by rw [hlive]; rfl, (prune_eq_self hlive).symm⟩
  | round head tail ih =>
    obtain ⟨hcount, hfinal⟩ := ih hlive
    exact ⟨by rw [head.length_stale, hcount], by rw [head.prune_eq, hfinal]⟩

/-- The loop ends, and where it ends it has gone through one round for each stale reference and
leaves the pruned relation. -/
lemma losesIn_iff {n : Nat} : LosesIn coins n r final ∧ final.stale coins = [] ↔
    n = (r.stale coins).length ∧ final = r.prune coins := by
  constructor
  · rintro ⟨hrounds, hlive⟩
    exact hrounds.eq_prune hlive
  · rintro ⟨rfl, rfl⟩
    exact ⟨exists_losesIn rfl, stale_prune r coins⟩

/-- **Pruning keeps everything that is live.**  For any tokens and any coins: taking out the first
stale reference, again and again, comes to an end, after as many rounds as there are stale
references, and what it leaves is the pruned relation.  No stale reference is left, and as many were
taken out as pruning reports.  The references left are those that were live, in their order; all
that is left was there in this order; and a relation is left as it is exactly when nothing in it is
stale. -/
theorem prune_keeps_live (r : Relation) (coins : CoinSet) :
    (∀ rounds final, LosesIn coins rounds r final ∧ final.stale coins = [] ↔
      rounds = (r.stale coins).length ∧ final = r.prune coins) ∧
    (r.prune coins).stale coins = [] ∧
    r.pruneCount coins = (r.stale coins).length ∧
    (r.prune coins).references = r.references.filter (Reference.isLive coins) ∧
    (r.prune coins).Sublist r ∧
    (r.stale coins = [] ↔ r.prune coins = r) := by
  refine ⟨fun rounds final => losesIn_iff, stale_prune r coins, pruneCount_eq r coins,
    references_prune r coins, prune_sublist r coins, prune_eq_self, ?_⟩
  intro hsame
  rw [← hsame]
  exact stale_prune r coins

/-- Two stale references where operators lack operands: an operator is lost with each of them, and
the empty group goes with its `NOT`. -/
example : prune [.op .not, .op .openParen, .coin ⟨1⟩, .op .closeParen, .op .or, .label 4,
    .coin ⟨2⟩, .op .and] [] = [.label 4] := by
  decide +kernel

end Relation

end CoinQuery
