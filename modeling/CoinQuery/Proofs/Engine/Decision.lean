import CoinQuery.Proofs.Engine.Acceptance
import CoinQuery.Proofs.Engine.Face
import CoinQuery.Proofs.Input
import CoinQuery.Proofs.Relation.Pruning

/-!
# What an operation comes to

An engine decides what an operation is to do before it does anything, and there are many operations
but few things that are done (`Engine.Decision`): an operation is refused, it works on a face of the
draft, it changes what is compiled and syncs, or it does one of a few things that belong to it
alone.  `Engine.exists_decision` goes through the operations one by one.  What holds of every
operation is derived from it, once it is known what holds of work on a face.

A decision depends on the coins, the relation and the search type, and on nothing else: how work on
a face and answers turn out is left to when they are done.  So what one engine decides holds for any
other that follows it in these (`Engine.following`), which is why it is a function of engines.
-/

namespace CoinQuery

open Text
open DescriptionInput (Event)

/-! ## Replies -/

namespace Reply

/-- A coin was taken out of the set. -/
def isRemoval : Reply → Bool
  | coin (some _) => true
  | _ => false

/-- The reply says that the operation was refused. -/
def IsRefusal : Reply → Prop
  | .flag accepted => accepted = false
  | .negation state => state = none
  | .keyword removed => removed = none
  | .coin removed => removed = none
  | .request sent => sent = none
  | _ => False

lemma IsRefusal.request? {reply : Reply} (h : reply.IsRefusal) : reply.request? = none := by
  cases reply with
  | request sent => exact h
  | _ => rfl

lemma IsRefusal.isRemoval {reply : Reply} (h : reply.IsRefusal) : reply.isRemoval = false := by
  cases reply with
  | coin removed =>
    obtain rfl : removed = none := h
    rfl
  | _ => rfl

end Reply

/-- Work on a face is replied to with no request, and takes no coin out of the set. -/
lemma Operation.quiet_work (o : Operation) (f : Face) :
    (o.work f).1.request? = none ∧ (o.work f).1.isRemoval = false := by
  fun_cases Operation.work o f <;> exact ⟨rfl, rfl⟩

/-! ## Tokens given to the engine -/

/-- The tokens that an operation hands over. -/
def Operation.tokens : Operation → List Token
  | .editVisual nodes => nodes.map VisualNode.token
  | .pushToken t => [t]
  | .insertToken _ t => [t]
  | _ => []

/-- A token that the engine makes itself: a reference to a coin of the set, a label that was read,
or an operator. -/
def Token.IsOwn (coins : CoinSet) : Token → Prop
  | .ref (.coin id) => coins.holds id = true
  | .ref (.label n) => n < wordLimit
  | .op _ => True

lemma Token.isOwn_bind (coins : CoinSet) (t : Token) :
    t.bind coins = t ∨ (t.bind coins).IsOwn coins := by
  match t with
  | .ref (.coin id) => exact Or.inl rfl
  | .ref (.label n) =>
    cases hid : coins.idAt? n with
    | none => exact Or.inl (Token.bind_label_of_none hid)
    | some id =>
      rw [Token.bind_label_of_idAt? hid]
      exact Or.inr (CoinSet.holds_of_idAt? hid)
  | .op o => exact Or.inl rfl

lemma Token.IsReadable.isOwn {t : Token} (h : t.IsReadable) (coins : CoinSet) : t.IsOwn coins := by
  match t, h with
  | .ref (.label n), hn => exact hn
  | .op o, _ => trivial

/-- Following the set brings in the last coin and the operator in front of it. -/
lemma Relation.mem_followSize {r : Relation} {coins : CoinSet} {t : Token}
    (h : t ∈ r.followSize coins) : t ∈ r ∨ t.IsOwn coins := by
  rw [followSize] at h
  split at h
  · cases h
  · rename_i last hlast
    have hown : (Token.coin last.id).IsOwn coins :=
      CoinSet.holds_iff.mpr ⟨last, List.mem_of_getLast? hlast, rfl⟩
    split at h
    · obtain rfl := List.mem_singleton.mp h
      exact Or.inr hown
    · simp only [List.mem_append, List.mem_cons, List.not_mem_nil, or_false] at h
      rcases h with h | rfl | rfl
      · exact Or.inl h
      · exact Or.inr trivial
      · exact Or.inr hown

/-! ## Answers and what fields hear -/

/-- Answers, and what is done to the things that they bring. -/
def Operation.isAnswer : Operation → Bool
  | poll _ | applyRecommendations _ _ | applyCompile _ _ | setQueryText _ | applySearch _
  | results _ => true
  | _ => false

namespace Engine

/-- What the field of a side hears of an operation. -/
def hears (side : Side) (e : Engine) : Operation → Option Event
  | .keyUp pressed key text now => if pressed = side then some (.keyUp key text now) else none
  | .poll now => some (.poll now)
  | .clearDraft | .addCoin => some .reset
  | .editCoin index => e.coins[index]?.map fun _ => .reset
  | .pick picked category index =>
    if picked = side then
      ((e.recommendations.get picked).item? category index).map fun _ => .reset
    else none
  | _ => none

/-! ## Decisions -/

/-- The engine with the coins, the relation and the search type of another. -/
def following (f e : Engine) : Engine :=
  { f with coins := e.coins, relation := e.relation, searchType := e.searchType }

@[simp] lemma coins_following (f e : Engine) : (f.following e).coins = e.coins := rfl

@[simp] lemma relation_following (f e : Engine) : (f.following e).relation = e.relation := rfl

/-- The engine with what is compiled replaced, and synced. -/
def revise (f : Engine) (coins : CoinSet) (relation : Relation) (searchType : SearchType) :
    CompileRequest × Engine :=
  { f with coins, relation, searchType }.sync

/-- What an engine decides an operation to do, to itself or to an engine that follows it. -/
inductive Decision (e : Engine) : Operation → (Engine → Reply × Engine) → Prop
  | refused {o : Operation} {reply : Reply} (told : reply.IsRefusal)
      (unheard : ∀ side, e.hears side o = none) : Decision e o fun f => (reply, f)
  | worked {o : Operation} {side : Side} (on : o.side? = some side) :
      Decision e o fun f => ((o.work (f.face side)).1, f.setFace side (o.work (f.face side)).2)
  | cleared : Decision e .clearDraft fun f => (.done, f.clearDraft)
  | loaded {index : Nat} {coin : Coin} (found : e.coins[index]? = some coin) :
      Decision e (.editCoin index) fun f =>
        (.flag true, { f.clearDraft with mint := f.clearDraft.mint.load coin })
  | added : Decision e .addCoin fun f => (.request (some f.addCoin.1), f.addCoin.2)
  | removed {index : Nat} {coin : Coin} (found : e.coins[index]? = some coin) :
      Decision e (.removeCoin index) fun f =>
        (.coin (some coin), { f with coins := f.coins.eraseIdx index })
  /-- What is new in the relation was given or is the engine's own. -/
  | revised {o : Operation} (coins : CoinSet) (relation : Relation) (searchType : SearchType)
      (kept : coins = e.coins ∨ coins = [])
      (tokens : ∀ t ∈ relation, t ∈ e.relation ∨ t ∈ o.tokens ∨ t.IsOwn coins)
      (edits : o.isAnswer = false) (unheard : ∀ side, e.hears side o = none) :
      Decision e o fun f => (.request (some (f.revise coins relation searchType).1),
        (f.revise coins relation searchType).2)
  | polled (now : Nat) : Decision e (.poll now) fun f => (.lookups (f.poll now).1, (f.poll now).2)
  | answered (seq : Nat) (response : CompileResponse) :
      Decision e (.applyCompile seq response) fun f =>
        (.flag (f.applyCompile seq response).1, (f.applyCompile seq response).2)
  | written (text : String) : Decision e (.setQueryText text) fun f => (.done, f.setQueryText text)
  | searched {response : SearchResponse} {records : List Record}
      (success : response.outcome SearchRequest.action = .ok records) :
      Decision e (.applySearch response) fun f =>
        (.flag true, { f with results := f.results.setResults records })
  | turned (operation : ResultOperation) :
      Decision e (.results operation) fun f =>
        (((f.results.step operation).1.map .flag).getD .done,
          { f with results := (f.results.step operation).2 })

/-- Only the relation is replaced, by one that is bound. -/
lemma Decision.ofBind (e : Engine) {o : Operation} (relation : Relation)
    (tokens : ∀ t ∈ relation, t ∈ e.relation ∨ t ∈ o.tokens ∨ t.IsOwn e.coins)
    (edits : o.isAnswer = false) (unheard : ∀ side, e.hears side o = none) :
    e.Decision o fun f =>
      (.request (some (f.revise e.coins (relation.bind e.coins) e.searchType).1),
        (f.revise e.coins (relation.bind e.coins) e.searchType).2) := by
  refine .revised _ _ _ (Or.inl rfl) ?_ edits unheard
  -- binding brings nothing in but what the engine makes itself
  intro t ht
  obtain ⟨u, hu, rfl⟩ := List.mem_map.mp ht
  rcases Token.isOwn_bind e.coins u with hsame | hown
  · rw [hsame]
    exact tokens u hu
  · exact Or.inr (Or.inr hown)

/-- **Every operation comes to one of these decisions**, for all engines that follow the one that
decides. -/
theorem exists_decision (e : Engine) (o : Operation) :
    ∃ act, e.Decision o act ∧ ∀ f : Engine, (f.following e).step o = act (f.following e) := by
  cases o with
  -- work on a side of the draft
  | addDescriptor side _ | removeLastDescriptor side | addKeyword side _ | toggleKeyword side _
  | removeKeyword side _ | keyUp side _ _ _ | applyRecommendations side _ | pick side _ _ =>
    exact ⟨_, .worked rfl, fun _ => step_eq_work rfl _⟩
  | clearDraft => exact ⟨_, .cleared, fun _ => rfl⟩
  | poll now => exact ⟨_, .polled now, fun _ => rfl⟩
  | addCoin => exact ⟨_, .added, fun _ => rfl⟩
  | applyCompile seq response => exact ⟨_, .answered seq response, fun _ => rfl⟩
  | setQueryText text => exact ⟨_, .written text, fun _ => rfl⟩
  | results operation => exact ⟨_, .turned operation, fun _ => rfl⟩
  -- operations that look something up
  | editCoin index =>
    cases hcoin : e.coins[index]? with
    | none =>
      have told : Reply.IsRefusal (.flag false) := rfl
      exact ⟨_, .refused told (by simp [hears, hcoin]), fun f => by simp [step, editCoin, hcoin]⟩
    | some coin => exact ⟨_, .loaded hcoin, fun f => by simp [step, editCoin, hcoin]⟩
  | removeCoin index =>
    cases hcoin : e.coins[index]? with
    | none =>
      have told : Reply.IsRefusal (.coin none) := rfl
      exact ⟨_, .refused told fun _ => rfl, fun f => by simp [step, removeCoin, hcoin]⟩
    | some coin => exact ⟨_, .removed hcoin, fun f => by simp [step, removeCoin, hcoin]⟩
  | applySearch response =>
    cases houtcome : response.outcome SearchRequest.action with
    | error reason =>
      have told : Reply.IsRefusal (.flag false) := rfl
      exact ⟨_, .refused told fun _ => rfl, fun f => by simp [step, applySearch, houtcome]⟩
    | ok records => exact ⟨_, .searched houtcome, fun f => by simp [step, applySearch, houtcome]⟩
  -- edits of what is compiled
  | clearCoins =>
    exact ⟨_, .revised [] [] e.searchType (Or.inr rfl) (by simp) rfl fun _ => rfl, fun _ => rfl⟩
  | reconcile =>
    exact ⟨_, .revised e.coins e.relation e.searchType (Or.inl rfl) (fun t ht => Or.inl ht) rfl
      fun _ => rfl, fun _ => rfl⟩
  | clearRelation =>
    exact ⟨_, .revised e.coins [] e.searchType (Or.inl rfl) (by simp) rfl fun _ => rfl,
      fun _ => rfl⟩
  | setSearchType searchType =>
    exact ⟨_, .revised e.coins e.relation searchType (Or.inl rfl) (fun t ht => Or.inl ht) rfl
      fun _ => rfl, fun _ => rfl⟩
  | setRelationText text =>
    refine ⟨_, .ofBind e (.ofText text) ?_ rfl fun _ => rfl, fun _ => rfl⟩
    intro t ht
    have hread : t.IsReadable := Relation.isReadable_of_mem_ofText ht
    exact Or.inr (Or.inr (hread.isOwn e.coins))
  | editVisual nodes =>
    exact ⟨_, .ofBind e (nodes.map VisualNode.token) (fun t ht => Or.inr (Or.inl ht)) rfl
      fun _ => rfl, fun _ => rfl⟩
  | pushToken t =>
    refine ⟨_, .ofBind e (e.relation ++ [t]) ?_ rfl fun _ => rfl, fun _ => rfl⟩
    intro u hu
    rcases List.mem_append.mp hu with hold | hgiven
    · exact Or.inl hold
    · exact Or.inr (Or.inl hgiven)
  | pushReference index =>
    cases hcoin : e.coins[index]? with
    | none =>
      have told : Reply.IsRefusal (.request none) := rfl
      exact ⟨_, .refused told fun _ => rfl, fun f => by simp [step, pushReference, hcoin]⟩
    | some coin =>
      have hown : (Token.coin coin.id).IsOwn e.coins :=
        CoinSet.holds_iff.mpr ⟨coin, List.mem_of_getElem? hcoin, rfl⟩
      refine ⟨_, .ofBind e (e.relation ++ [.coin coin.id]) ?_ rfl fun _ => rfl, fun f => ?_⟩
      · intro u hu
        rcases List.mem_append.mp hu with hold | hnew
        · exact Or.inl hold
        · obtain rfl := List.mem_singleton.mp hnew
          exact Or.inr (Or.inr hown)
      · simp only [step, pushReference, coins_following, hcoin]
        rfl
  | insertToken index t =>
    by_cases hindex : index ≤ e.relation.length
    · refine ⟨_, .ofBind e (e.relation.take index ++ t :: e.relation.drop index) ?_ rfl
        fun _ => rfl, fun f => ?_⟩
      · intro u hu
        rcases List.mem_append.mp hu with hfront | hback
        · exact Or.inl (List.mem_of_mem_take hfront)
        · rcases List.mem_cons.mp hback with rfl | hback
          · exact Or.inr (Or.inl List.mem_cons_self)
          · exact Or.inl (List.mem_of_mem_drop hback)
      · simp only [step, insertToken, Relation.insert?, relation_following, hindex, if_true]
        rfl
    · have told : Reply.IsRefusal (.request none) := rfl
      exact ⟨_, .refused told fun _ => rfl, fun f => by
        simp [step, insertToken, Relation.insert?, hindex]⟩
  | removeToken index =>
    cases hremoved : e.relation[index]? with
    | none =>
      have told : Reply.IsRefusal (.request none) := rfl
      exact ⟨_, .refused told fun _ => rfl, fun f => by
        simp [step, removeToken, Relation.remove?, hremoved]⟩
    | some t =>
      have hsublist : (e.relation.eraseIdx index).Sublist e.relation :=
        List.eraseIdx_sublist e.relation index
      refine ⟨_, .revised e.coins (e.relation.eraseIdx index) e.searchType (Or.inl rfl)
        (fun u hu => Or.inl (hsublist.subset hu)) rfl fun _ => rfl, fun f => ?_⟩
      simp only [step, removeToken, Relation.remove?, relation_following, hremoved]
      rfl

lemma step_eq_act (e : Engine) (o : Operation) : ∃ act, e.Decision o act ∧ e.step o = act e := by
  obtain ⟨act, decision, hact⟩ := e.exists_decision o
  exact ⟨act, decision, hact e⟩

end Engine

end CoinQuery
