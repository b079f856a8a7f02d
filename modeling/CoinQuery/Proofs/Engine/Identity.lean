import CoinQuery.Proofs.Engine.History

/-!
# The identity of coins

A coin is shown under a label that changes when an earlier coin is removed, and is meant by an id
that never changes.  Two things make the id safe: no id is given out twice, not even after the coin
that had it was removed or the set was cleared, and the set keeps its coins in the order in which
they were struck.

`Engine.struck` collects the coins struck in a run.  `Engine.Numbered` says that these are numbered
without gaps and that the set is what is left of them, in their order; it holds from any engine on,
so it also tells what a run can bring back.  The main result is `Engine.run_keeps_identity`.
-/

namespace CoinQuery

/-- The ids ascend along the set. -/
def CoinSet.Ascending (coins : CoinSet) : Prop := coins.Pairwise fun c d => c.id.raw < d.id.raw

lemma CoinSet.Ascending.distinct {coins : CoinSet} (h : coins.Ascending) : coins.Distinct := by
  refine List.pairwise_map.mpr (h.imp ?_)
  intro c d hlt heq
  exact absurd (congrArg CoinId.raw heq) (Nat.ne_of_lt hlt)

/-- Coins that are numbered one after the other ascend. -/
lemma CoinSet.ascending_of_numbered {coins : CoinSet} {first count : Nat}
    (h : coins.map (·.id.raw) = List.range' first count) : coins.Ascending := by
  have hpairs : (coins.map (·.id.raw)).Pairwise (· < ·) := h ▸ List.pairwise_lt_range'
  exact List.pairwise_map.mp hpairs

/-! ## What a reference shows -/

lemma Reference.text_of_position? {coins : CoinSet} {id : CoinId} {p : Nat}
    (h : coins.position? id = some p) :
    Reference.text coins (.coin id) = Coin.label (p + 1) := by
  simp [Reference.text, CoinSet.labelOf?, h]

lemma Reference.text_of_gone {coins : CoinSet} {id : CoinId} (h : coins.holds id = false) :
    Reference.text coins (.coin id) = staleLabel := by
  rw [CoinSet.holds, Option.isSome_eq_false_iff, Option.isNone_iff_eq_none] at h
  simp [Reference.text, CoinSet.labelOf?, h]

namespace Engine

/-! ## The coins of a run -/

/-- The coin that an operation strikes. -/
def struckBy (e : Engine) : Operation → Option Coin
  | .addCoin => some e.mint.strike.1
  | _ => none

/-- The coins struck in a run, in order, also those that have left the set since. -/
def struck (e : Engine) (operations : List Operation) : List Coin := e.history struckBy operations

lemma struckBy_eq_some_iff {e : Engine} {o : Operation} {coin : Coin} :
    e.struckBy o = some coin ↔ o = .addCoin ∧ coin = e.mint.strike.1 := by
  cases o <;> simp [struckBy, eq_comm]

lemma struckBy_eq_none {o : Operation} (h : o ≠ .addCoin) (e : Engine) : e.struckBy o = none := by
  cases o <;> first | rfl | exact absurd rfl h

/-- Only a coin that is struck comes into the set, and it comes behind the others. -/
lemma coins_step (e : Engine) (o : Operation) :
    (e.step o).2.coins.Sublist (e.coins ++ (e.struckBy o).toList) := by
  by_cases hadd : o = .addCoin
  · subst hadd
    exact List.Sublist.refl _
  · have hid : (e.step o).2.mint.lastId = e.mint.lastId := (e.step_frame o).lastId hadd
    have heffect := e.step_effect o
    rw [struckBy_eq_none hadd, Option.toList_none, List.append_nil]
    generalize (e.step o).1 = reply, (e.step o).2 = next at heffect hid ⊢
    cases heffect with
    | aside _ _ same =>
      have hcoins : next.coins = e.coins := congrArg Compiled.coins same
      rw [hcoins]
    | removal _ => exact List.eraseIdx_sublist _ _
    | synced edited edit =>
      have hedited : edited.mint.lastId = e.mint.lastId := hid
      change edited.coins.Sublist e.coins
      rcases edit.coins with ⟨hsame | hnone, -⟩ | ⟨sides, -, hnew⟩
      · exact hsame ▸ List.Sublist.refl _
      · exact hnone ▸ List.nil_sublist _
      · omega

/-- The coins struck since `start` count on from its last id, and the set is what is left of the
coins it had and of these. -/
structure Numbered (start e : Engine) (struck : List Coin) : Prop where
  kept : e.coins.Sublist (start.coins ++ struck)
  ids : struck.map (·.id.raw) = List.range' (start.mint.lastId + 1) struck.length
  lastId : e.mint.lastId = start.mint.lastId + struck.length

lemma Numbered.step {start e : Engine} {struck : List Coin} (h : Numbered start e struck)
    (o : Operation) : Numbered start (e.step o).2 (struck ++ (e.struckBy o).toList) := by
  have hkept : (e.step o).2.coins.Sublist (start.coins ++ (struck ++ (e.struckBy o).toList)) := by
    rw [← List.append_assoc]
    exact (e.coins_step o).trans (h.kept.append (List.Sublist.refl _))
  by_cases hadd : o = .addCoin
  · subst hadd
    refine ⟨hkept, ?_, ?_⟩
    · have hid : e.mint.strike.1.id.raw = start.mint.lastId + 1 + struck.length := by
        calc e.mint.lastId + 1 = start.mint.lastId + struck.length + 1 := by rw [h.lastId]
          _ = start.mint.lastId + 1 + struck.length := Nat.add_right_comm _ _ _
      simp [struckBy, h.ids, hid, List.range'_1_concat]
    · calc e.mint.lastId + 1 = start.mint.lastId + struck.length + 1 := by rw [h.lastId]
        _ = start.mint.lastId + (struck ++ [e.mint.strike.1]).length := by simp [Nat.add_assoc]
  · have hid : (e.step o).2.mint.lastId = e.mint.lastId := (e.step_frame o).lastId hadd
    rw [struckBy_eq_none hadd] at hkept ⊢
    rw [Option.toList_none, List.append_nil] at hkept ⊢
    exact ⟨hkept, h.ids, hid.trans h.lastId⟩

lemma numbered_run (start : Engine) (operations : List Operation) :
    Numbered start (start.run operations) (start.struck operations) :=
  history_induction (Numbered start) ⟨by simp, rfl, rfl⟩ (fun _ _ o h => h.step o) operations

lemma Numbered.raw_of_mem {start e : Engine} {struck : List Coin} (h : Numbered start e struck)
    {c : Coin} (hc : c ∈ struck) : start.mint.lastId < c.id.raw ∧ c.id.raw ≤ e.mint.lastId := by
  have hraw : c.id.raw ∈ struck.map (·.id.raw) := List.mem_map_of_mem hc
  rw [h.ids, List.mem_range'_1] at hraw
  have := h.lastId
  omega

/-- An id that was given out and is not in the set will never be in it again. -/
lemma holds_run_eq_false {e : Engine} {id : CoinId} (hgiven : id.raw ≤ e.mint.lastId)
    (hgone : e.coins.holds id = false) (operations : List Operation) :
    (e.run operations).coins.holds id = false := by
  have h : Numbered e (e.run operations) _ := numbered_run e operations
  rw [← Bool.not_eq_true, CoinSet.holds_iff] at hgone ⊢
  rintro ⟨c, hc, rfl⟩
  rcases List.mem_append.mp (h.kept.subset hc) with hold | hstruck
  · exact hgone ⟨c, hold, rfl⟩
  · have := h.raw_of_mem hstruck
    omega

/-- A coin that is removed was in the set, and the set is all that changes. -/
lemma removeCoin_of_some {e : Engine} {i : Nat} {removed : Coin}
    (h : (e.removeCoin i).1 = some removed) :
    e.coins[i]? = some removed ∧
      (e.removeCoin i).2 = { e with coins := e.coins.eraseIdx i } := by
  cases hcoin : e.coins[i]? with
  | none => simp [removeCoin, hcoin] at h
  | some coin =>
    simp only [removeCoin, hcoin, Option.some.injEq] at h ⊢
    exact ⟨h, trivial⟩

/-! ## A run of a fresh engine -/

section Fresh

variable (config : Config) (operations : List Operation)

lemma coins_sublist_struck :
    ((ofConfig config).run operations).coins.Sublist ((ofConfig config).struck operations) :=
  (numbered_run (ofConfig config) operations).kept

lemma ascending_coins : ((ofConfig config).run operations).coins.Ascending :=
  (CoinSet.ascending_of_numbered (numbered_run (ofConfig config) operations).ids).sublist
    (coins_sublist_struck config operations)

lemma raw_le_lastId {c : Coin} (hc : c ∈ ((ofConfig config).run operations).coins) :
    c.id.raw ≤ ((ofConfig config).run operations).mint.lastId :=
  ((numbered_run (ofConfig config) operations).raw_of_mem
    ((coins_sublist_struck config operations).subset hc)).2

end Fresh

/-- **Coins keep their identity** over every run of a fresh engine.  Ids ascend along the set, a
coin that is added gets a higher id than any coin struck before, and a coin of the set is what it
was struck from.  So a label names a coin exactly when the coin has that label.  Removing the coin
at a place leaves the relation and its text.  A reference to another coin of the set still means
that coin, and shows its label lowered by one exactly when the coin stood behind the one removed.  A
reference to the coin removed shows `C?`, and its id means no coin ever after. -/
theorem run_keeps_identity (config : Config) (operations : List Operation) :
    let start := ofConfig config
    let e := start.run operations
    e.coins.Ascending ∧
    (e.addCoin.2.coins = e.coins ++ [e.mint.strike.1] ∧
      ∀ c ∈ start.struck operations, c.id.raw < e.mint.strike.1.id.raw) ∧
    (∀ c ∈ e.coins, ∃ before after, operations = before ++ .addCoin :: after ∧
      c = (start.run before).mint.strike.1 ∧ c.sides = (start.run before).mint.draft) ∧
    (∀ id n, e.coins.idAt? n = some id ↔ e.coins.labelOf? id = some (Coin.label n)) ∧
    ∀ i removed, (e.removeCoin i).1 = some removed →
      let f := (e.removeCoin i).2
      (f.relation = e.relation ∧ f.relationText = e.relationText) ∧
      (∀ id p, id ≠ removed.id → e.coins.position? id = some p →
        let q := if i < p then p - 1 else p
        (f.coins.position? id = some q ∧ f.coins[q]? = e.coins[p]?) ∧
        Reference.text e.coins (.coin id) = Coin.label (p + 1) ∧
        Reference.text f.coins (.coin id) = Coin.label (q + 1)) ∧
      Reference.text f.coins (.coin removed.id) = "C?" ∧
      ∀ later, (f.run later).coins.holds removed.id = false := by
  intro start e
  have hnumbered : Numbered start e (start.struck operations) := numbered_run start operations
  have hascending : e.coins.Ascending := ascending_coins config operations
  have hd : e.coins.Distinct := hascending.distinct
  refine ⟨hascending, ⟨rfl, ?_⟩, ?_, fun id n => CoinSet.idAt?_eq_some_iff_labelOf? hd, ?_⟩
  · intro c hc
    exact Nat.lt_succ_of_le (hnumbered.raw_of_mem hc).2
  · intro c hc
    obtain ⟨before, o, after, hsplit, hnoted⟩ :=
      exists_of_mem_history ((coins_sublist_struck config operations).subset hc)
    obtain ⟨rfl, rfl⟩ := struckBy_eq_some_iff.mp hnoted
    exact ⟨before, after, hsplit, rfl, rfl⟩
  · intro i removed hremoved f
    obtain ⟨hfound, hf⟩ := removeCoin_of_some hremoved
    have hcoins : f.coins = e.coins.eraseIdx i := congrArg Engine.coins hf
    have hkept : f.relation = e.relation ∧ f.relationText = e.relationText := by
      change (e.removeCoin i).2.relation = _ ∧ (e.removeCoin i).2.relationText = _
      rw [hf]
      exact ⟨rfl, rfl⟩
    have hlast : f.mint.lastId = e.mint.lastId := congrArg (·.mint.lastId) hf
    have hgone : f.coins.holds removed.id = false := by
      rw [hcoins]
      exact CoinSet.holds_eraseIdx_self hd hfound
    refine ⟨hkept, ?_, Reference.text_of_gone hgone, ?_⟩
    · intro id p hid hp q
      have hpi : p ≠ i := by
        rintro rfl
        have hat := CoinSet.idAt?_of_position? hp
        rw [CoinSet.idAt?, hfound] at hat
        exact hid (Option.some.inj hat).symm
      have hq : f.coins.position? id = some q := by
        rw [hcoins]
        exact CoinSet.position?_eraseIdx hd hp hpi
      refine ⟨⟨hq, ?_⟩, Reference.text_of_position? hp, Reference.text_of_position? hq⟩
      rw [hcoins]
      exact CoinSet.getElem?_eraseIdx_of_ne e.coins hpi
    · intro later
      have hmem : removed ∈ e.coins := List.mem_of_getElem? hfound
      exact holds_run_eq_false (hlast ▸ raw_le_lastId config operations hmem) hgone later

/-- After an earlier coin is removed, the last coin is still meant by its id and shown as `C1`; the
id of the coin removed stays gone when more coins come. -/
theorem run_keeps_identity_after_removal :
    let e := (ofConfig .default).run [.addCoin, .addCoin, .clearCoins, .addCoin, .addCoin]
    let f := (e.removeCoin 0).2
    f.coins.map (·.id.raw) = [4] ∧
    Reference.text f.coins (.coin ⟨4⟩) = "C1" ∧ Reference.text f.coins (.coin ⟨3⟩) = "C?" ∧
    (f.run [.addCoin, .reconcile, .addCoin]).coins.holds ⟨3⟩ = false := by
  intro e f
  obtain ⟨-, -, -, -, hremoval⟩ :=
    run_keeps_identity .default [.addCoin, .addCoin, .clearCoins, .addCoin, .addCoin]
  obtain ⟨-, hothers, hgone, hlater⟩ := hremoval 0 ⟨⟨3⟩, .empty⟩ rfl
  obtain ⟨-, -, htext⟩ := hothers ⟨4⟩ 1 (by decide) rfl
  exact ⟨rfl, htext, hgone, hlater _⟩

end Engine

end CoinQuery
