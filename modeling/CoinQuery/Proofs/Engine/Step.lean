import CoinQuery.Proofs.Engine.Decision
import Mathlib.Data.List.DropRight

/-!
# One operation and its effect

To what is compiled an operation can do one of three things only (`Engine.Effect`): leave it as it
is, take a coin out of the set, or edit it and sync.  Other parts of the engine belong to a few
operations each, and every other operation leaves them alone (`Engine.Frame`).  Both are read off
the decision that an operation comes to.

A run is seen through its replies.  `Reply.newest?` is the last request that was returned, and
`Reply.Settled` says that no coin was removed since then.  `Engine.run_induction` is the induction
that an invariant of engines and the replies so far goes through.
-/

namespace CoinQuery

/-! ## Replies -/

namespace Reply

/-- The newest request among the replies. -/
def newest? (replies : List Reply) : Option CompileRequest :=
  (replies.filterMap request?).getLast?

/-- The number of the newest request; requests are numbered from one. -/
def newestSeq (replies : List Reply) : Nat := ((newest? replies).map CompileRequest.seq).getD 0

/-- No coin was removed since the last request, or since the beginning. -/
def Settled (replies : List Reply) : Prop :=
  ∀ reply ∈ replies.rtakeWhile (·.request?.isNone), reply.isRemoval = false

instance : DecidablePred Settled := fun replies => inferInstanceAs <| Decidable <|
  ∀ reply ∈ replies.rtakeWhile (·.request?.isNone), reply.isRemoval = false

lemma newest?_concat_of_some {reply : Reply} {request : CompileRequest}
    (h : reply.request? = some request) (replies : List Reply) :
    newest? (replies ++ [reply]) = some request := by
  simp [newest?, List.filterMap_append, h]

lemma newest?_concat_of_none {reply : Reply} (h : reply.request? = none) (replies : List Reply) :
    newest? (replies ++ [reply]) = newest? replies := by
  simp [newest?, List.filterMap_append, h]

lemma settled_concat_of_none {reply : Reply} (h : reply.request? = none) (replies : List Reply) :
    Settled (replies ++ [reply]) ↔ Settled replies ∧ reply.isRemoval = false := by
  rw [Settled, List.rtakeWhile_concat_pos _ _ _ (by simp [h]), Settled]
  simp only [List.mem_append, List.mem_singleton, or_imp, forall_and, forall_eq]

end Reply

namespace Engine

/-! ## Effects -/

/-- What is compiled, with the numbers that the next coin and the next request count on from. -/
structure Compiled where
  lastId : Nat
  coins : CoinSet
  relation : Relation
  relationText : String
  searchType : SearchType
  issued : Nat

def compiled (e : Engine) : Compiled :=
  ⟨e.mint.lastId, e.coins, e.relation, e.relationText, e.searchType, e.sequencer.issued⟩

/-- An edit before its sync.  No number is given out yet; the set keeps its coins, loses all of them
or gains one with the next id; and what is new in the relation was given or is the engine's own. -/
structure Edit (e : Engine) (given : List Token) (edited : Engine) : Prop where
  sequencer : edited.sequencer = e.sequencer
  coins : (edited.coins = e.coins ∨ edited.coins = []) ∧ edited.mint.lastId = e.mint.lastId ∨
    ∃ sides, edited.coins = e.coins ++ [⟨⟨e.mint.lastId + 1⟩, sides⟩] ∧
      edited.mint.lastId = e.mint.lastId + 1
  tokens : ∀ t ∈ edited.relation, t ∈ e.relation ∨ t ∈ given ∨ t.IsOwn edited.coins

/-- What an operation can do. -/
inductive Effect (e : Engine) (given : List Token) : Reply → Engine → Prop
  | aside {reply : Reply} {next : Engine} (quiet : reply.request? = none)
      (stays : reply.isRemoval = false) (same : next.compiled = e.compiled) :
      Effect e given reply next
  | removal {index : Nat} {coin : Coin} (found : e.coins[index]? = some coin) :
      Effect e given (.coin (some coin)) { e with coins := e.coins.eraseIdx index }
  | synced (edited : Engine) (edit : e.Edit given edited) :
      Effect e given (.request (some edited.sync.1)) edited.sync.2

/-- **Every operation has one of the three effects.** -/
theorem step_effect (e : Engine) (o : Operation) : e.Effect o.tokens (e.step o).1 (e.step o).2 := by
  obtain ⟨act, decision, hact⟩ := e.step_eq_act o
  rw [hact]
  cases decision with
  | refused told _ => exact .aside told.request? told.isRemoval rfl
  | worked _ =>
    obtain ⟨quiet, stays⟩ := o.quiet_work (e.face _)
    exact .aside quiet stays rfl
  | cleared => exact .aside rfl rfl rfl
  | loaded _ => exact .aside rfl rfl rfl
  | added =>
    refine .synced _ ⟨rfl, Or.inr ⟨e.mint.draft, rfl, rfl⟩, ?_⟩
    intro t ht
    -- what the engine follows the set with is drawn from the set with the new coin
    rcases Relation.mem_followSize ht with hold | hown
    · exact Or.inl ((Relation.prune_sublist e.relation _).subset hold)
    · exact Or.inr (Or.inr hown)
  | removed found => exact .removal found
  | revised coins relation searchType kept tokens _ _ =>
    exact .synced { e with coins, relation, searchType } ⟨rfl, Or.inl ⟨kept, rfl⟩, tokens⟩
  | polled now => exact .aside rfl rfl rfl
  | answered seq response =>
    obtain ⟨mark, text, hnext⟩ := e.applyCompile_snd seq response
    have hsame : (e.applyCompile seq response).2.compiled = e.compiled := by
      rw [hnext]
      rfl
    exact .aside rfl rfl hsame
  | written text => exact .aside rfl rfl rfl
  | searched _ => exact .aside rfl rfl rfl
  | turned operation =>
    exact .aside (by cases operation <;> rfl) (by cases operation <;> rfl) rfl

/-! ## Frames -/

/-- What an operation leaves alone: the mark and the text of the answers, unless it is an answer or
writes the text, and the id of the last coin, unless it adds one. -/
structure Frame (e : Engine) (o : Operation) (next : Engine) : Prop where
  answered : (∀ seq response, o ≠ .applyCompile seq response) →
    next.sequencer.answered = e.sequencer.answered
  queryText : (∀ seq response, o ≠ .applyCompile seq response) → (∀ text, o ≠ .setQueryText text) →
    next.queryText = e.queryText
  lastId : o ≠ .addCoin → next.mint.lastId = e.mint.lastId

theorem step_frame (e : Engine) (o : Operation) : e.Frame o (e.step o).2 := by
  obtain ⟨act, decision, hact⟩ := e.step_eq_act o
  rw [hact]
  cases decision with
  | added => exact ⟨fun _ => rfl, fun _ _ => rfl, fun h => absurd rfl h⟩
  | written text => exact ⟨fun _ => rfl, fun _ h => absurd rfl (h text), fun _ => rfl⟩
  | answered seq response =>
    obtain ⟨mark, text, hnext⟩ := e.applyCompile_snd seq response
    exact ⟨fun h => absurd rfl (h seq response), fun h => absurd rfl (h seq response),
      fun _ => congrArg (·.mint.lastId) hnext⟩
  | _ => exact ⟨fun _ => rfl, fun _ _ => rfl, fun _ => rfl⟩

/-! ## Runs -/

lemma run_concat (e : Engine) (operations : List Operation) (o : Operation) :
    e.run (operations ++ [o]) = ((e.run operations).step o).2 := by
  simp [run, List.foldl_append]

lemma replies_concat (e : Engine) (operations : List Operation) (o : Operation) :
    e.replies (operations ++ [o]) = e.replies operations ++ [((e.run operations).step o).1] := by
  induction operations generalizing e with
  | nil => rfl
  | cons first operations ih =>
    rw [List.cons_append, replies, replies, ih]
    rfl

/-- What holds at the beginning and is kept by every operation that may occur holds after every run
of such operations, of the engine and the replies so far. -/
lemma run_induction (Invariant : Engine → List Reply → Prop) {start : Engine}
    {allowed : Operation → Prop} (initial : Invariant start [])
    (kept : ∀ e replies o, allowed o → Invariant e replies →
      Invariant (e.step o).2 (replies ++ [(e.step o).1]))
    (operations : List Operation) (h : ∀ o ∈ operations, allowed o) :
    Invariant (start.run operations) (start.replies operations) := by
  induction operations using List.reverseRecOn with
  | nil => exact initial
  | append_singleton operations o ih =>
    rw [run_concat, replies_concat]
    refine kept _ _ o (h o (by simp)) (ih fun p hp => h p ?_)
    exact List.mem_append_left _ hp

end Engine

end CoinQuery
