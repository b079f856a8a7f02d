import CoinQuery.Proofs.Engine.Step
import CoinQuery.Proofs.Relation.Visual

/-!
# The engine stays in step

The engine keeps the canonical text of its relation, returns it in requests and shows the relation
as a row of nodes.  These agree as long as everything that changes what is compiled ends in a sync,
and as long as a sync prunes before it binds.  Removing a coin is the exception, by design: the
relation then refers to a coin that has left, and the text shows a label that is no longer its own.

`Engine.InStep` is the agreement, and `Engine.Coherent` the invariant of a run: what holds of the
engine and the requests returned so far, whether a coin was removed since the newest or not.  The
main result `Engine.run_coherent` reads it off for every run of a fresh engine.
-/

namespace CoinQuery.Engine

open CoinQuery.Reply

/-- The relation has no stale reference, and text and nodes both show it. -/
structure InStep (e : Engine) : Prop where
  live : e.staleReferences = []
  text : e.relationText = e.relation.text e.coins
  visual : VisualNode.textOf e.visual = e.relationText

/-! ## What a sync establishes -/

lemma inStep_sync (e : Engine) : e.sync.2.InStep where
  live := Relation.stale_bind_eq_nil (Relation.stale_prune e.relation e.coins)
  text := rfl
  visual := Relation.textOf_visual _ _

/-- Where everything is in step already, a sync gives out a number and changes nothing else. -/
lemma sync_eq_self {e : Engine} (hstep : e.InStep)
    (hlabels : e.relation.LabelsUnresolved e.coins) :
    e.sync = (⟨e.sequencer.issued + 1, e.coins.toJson.text, e.relationText, e.searchType⟩,
      { e with sequencer := { e.sequencer with issued := e.sequencer.issued + 1 } }) := by
  have hsame : (e.relation.prune e.coins).bind e.coins = e.relation := by
    rw [Relation.prune_eq_self hstep.live, Relation.bind_eq_self hlabels]
  simp only [sync, hsame, ← hstep.text, CompileSequencer.issue]

/-! ## The invariant of a run -/

/-- What holds after the operations that gave these replies. -/
structure Coherent (e : Engine) (replies : List Reply) : Prop where
  labels : e.relation.LabelsUnresolved e.coins
  inStep : Settled replies → e.InStep
  newest : ∀ request, newest? replies = some request →
    e.relationText = request.relation ∧ e.searchType = request.searchType
  coins : Settled replies → ∀ request, newest? replies = some request →
    request.coins = e.coins.toJson.text
  issued : e.sequencer.issued = newestSeq replies

lemma coherent_ofConfig (config : Config) : (ofConfig config).Coherent [] where
  labels := fun n hn => by cases hn
  inStep := fun _ => ⟨rfl, rfl, rfl⟩
  newest := fun request h => by cases h
  coins := fun _ request h => by cases h
  issued := rfl

/-- Nothing that the invariant speaks of changes. -/
lemma Coherent.aside {e next : Engine} {replies : List Reply} (h : e.Coherent replies)
    {reply : Reply} (quiet : reply.request? = none) (same : next.compiled = e.compiled) :
    next.Coherent (replies ++ [reply]) := by
  have hcoins : next.coins = e.coins := congrArg Compiled.coins same
  have hrelation : next.relation = e.relation := congrArg Compiled.relation same
  have htext : next.relationText = e.relationText := congrArg Compiled.relationText same
  have htype : next.searchType = e.searchType := congrArg Compiled.searchType same
  have hissued : next.sequencer.issued = e.sequencer.issued := congrArg Compiled.issued same
  have hsettled : Settled (replies ++ [reply]) → Settled replies := fun hs =>
    ((settled_concat_of_none quiet replies).mp hs).1
  have hnewest := newest?_concat_of_none quiet replies
  constructor
  case labels => rw [hrelation, hcoins]; exact h.labels
  case inStep =>
    intro hs
    obtain ⟨live, text, visual⟩ := h.inStep (hsettled hs)
    constructor
    · rwa [staleReferences, hrelation, hcoins]
    · rwa [htext, hrelation, hcoins]
    · rwa [Engine.visual, hrelation, hcoins, htext]
  case newest => rw [hnewest, htext, htype]; exact h.newest
  case coins => intro hs; rw [hnewest, hcoins]; exact h.coins (hsettled hs)
  case issued => rw [hissued, newestSeq, hnewest]; exact h.issued

/-- A coin is removed: fewer labels name a coin, and text, nodes and requests are left behind. -/
lemma Coherent.removal {e : Engine} {replies : List Reply} (h : e.Coherent replies) (index : Nat)
    (coin : Coin) :
    ({ e with coins := e.coins.eraseIdx index } : Engine).Coherent
      (replies ++ [.coin (some coin)]) := by
  have hunsettled : ¬ Settled (replies ++ [.coin (some coin)]) := fun hs =>
    Bool.noConfusion ((settled_concat_of_none rfl replies).mp hs).2
  have hnewest : newest? (replies ++ [.coin (some coin)]) = newest? replies :=
    newest?_concat_of_none rfl replies
  constructor
  case labels =>
    intro n hn
    have hlength : (e.coins.eraseIdx index).length ≤ e.coins.length :=
      (List.eraseIdx_sublist e.coins index).length_le
    exact (h.labels n hn).imp_right fun hlt => lt_of_le_of_lt hlength hlt
  case inStep => exact fun hs => absurd hs hunsettled
  case newest => rw [hnewest]; exact h.newest
  case coins => exact fun hs => absurd hs hunsettled
  case issued => rw [newestSeq, hnewest]; exact h.issued

/-- A sync establishes everything again, and its request is the newest. -/
lemma coherent_sync (e : Engine) (replies : List Reply) :
    e.sync.2.Coherent (replies ++ [.request (some e.sync.1)]) := by
  have hnewest : newest? (replies ++ [.request (some e.sync.1)]) = some e.sync.1 :=
    newest?_concat_of_some rfl replies
  constructor
  case labels => exact Relation.labelsUnresolved_bind _ _
  case inStep => exact fun _ => inStep_sync e
  case newest =>
    intro request h
    obtain rfl := Option.some.inj (hnewest.symm.trans h)
    exact ⟨rfl, rfl⟩
  case coins =>
    intro _ request h
    obtain rfl := Option.some.inj (hnewest.symm.trans h)
    rfl
  case issued => rw [newestSeq, hnewest]; rfl

lemma Coherent.step {e : Engine} {replies : List Reply} (h : e.Coherent replies) (o : Operation) :
    (e.step o).2.Coherent (replies ++ [(e.step o).1]) := by
  have heffect := e.step_effect o
  generalize (e.step o).1 = reply, (e.step o).2 = next at heffect ⊢
  cases heffect with
  | aside quiet _ same => exact h.aside quiet same
  | removal found => exact h.removal _ _
  | synced edited edit => exact coherent_sync edited replies

lemma coherent_run (config : Config) (operations : List Operation) :
    ((ofConfig config).run operations).Coherent ((ofConfig config).replies operations) :=
  run_induction Coherent (coherent_ofConfig config) (fun _ _ o (_ : True) h => h.step o) operations
    fun _ _ => trivial

/-- A request is returned by a sync alone, which counts on from the last number given out. -/
lemma request_of_step {e : Engine} {o : Operation} {request : CompileRequest}
    (h : (e.step o).1.request? = some request) :
    (e.step o).2.InStep ∧
      request = ⟨e.sequencer.issued + 1, (e.step o).2.coins.toJson.text,
        (e.step o).2.relationText, (e.step o).2.searchType⟩ := by
  have heffect := e.step_effect o
  generalize (e.step o).1 = reply, (e.step o).2 = next at heffect h ⊢
  cases heffect with
  | aside quiet _ _ => rw [quiet] at h; cases h
  | removal _ => cases h
  | synced edited edit =>
    obtain rfl := Option.some.inj h
    refine ⟨inStep_sync edited, ?_⟩
    rw [← edit.sequencer]
    rfl

/-- **Everything stays in step over every run** of a fresh engine.  No label left in the relation
names a coin.  Unless a coin was removed since the newest request, text, nodes and relation agree
and no reference is stale.  Text and search type are at all times those of the newest request.  An
operation that returns a request brings everything in step, and its request has the next number and
tells the state it leaves.  Reconciling, unless a coin was removed since the newest request, repeats
that request with the next number and changes nothing else. -/
theorem run_coherent (config : Config) (operations : List Operation) :
    let e := (ofConfig config).run operations
    let replies := (ofConfig config).replies operations
    e.relation.LabelsUnresolved e.coins ∧
    (Settled replies → e.InStep) ∧
    (∀ newest, newest? replies = some newest →
      e.relationText = newest.relation ∧ e.searchType = newest.searchType) ∧
    (∀ o request, (e.step o).1.request? = some request →
      (e.step o).2.InStep ∧
        request = ⟨newestSeq replies + 1, (e.step o).2.coins.toJson.text,
          (e.step o).2.relationText, (e.step o).2.searchType⟩) ∧
    (Settled replies →
      e.reconcile = (⟨newestSeq replies + 1, e.coins.toJson.text, e.relationText, e.searchType⟩,
        { e with sequencer := { e.sequencer with issued := newestSeq replies + 1 } }) ∧
      ∀ newest, newest? replies = some newest →
        e.reconcile.1 = { newest with seq := newest.seq + 1 }) := by
  intro e replies
  have h : e.Coherent replies := coherent_run config operations
  refine ⟨h.labels, h.inStep, h.newest, ?_, ?_⟩
  · intro o request hrequest
    rw [← h.issued]
    exact request_of_step hrequest
  · intro hsettled
    have hsync := sync_eq_self (h.inStep hsettled) h.labels
    rw [h.issued] at hsync
    refine ⟨hsync, ?_⟩
    intro newest hnewest
    obtain ⟨htext, htype⟩ := h.newest newest hnewest
    have hseq : newestSeq replies = newest.seq := by simp [newestSeq, hnewest]
    rw [reconcile, hsync, hseq, htext, htype, ← h.coins hsettled newest hnewest]

/-- A removal leaves the engine out of step, and reconciling makes up for it. -/
theorem run_coherent_after_removal :
    let operations : List Operation := [.addCoin, .addCoin, .removeCoin 0, .reconcile]
    let e := (ofConfig .default).run operations
    ¬ Settled ((ofConfig .default).replies (operations.take 3)) ∧
    Settled ((ofConfig .default).replies operations) ∧ e.InStep ∧ e.reconcile.1.seq = 4 := by
  intro operations e
  have hsettled : Settled ((ofConfig .default).replies operations) := by decide
  obtain ⟨-, hstep, -, -, hreconcile⟩ := run_coherent .default operations
  refine ⟨by decide, hsettled, hstep hsettled, ?_⟩
  rw [(hreconcile hsettled).1]
  rfl

end CoinQuery.Engine
