import CoinQuery.Proofs.Engine.Coherence

/-!
# Editing as text and as nodes

The relation can be edited as a text and as a row of nodes.  Two questions decide whether an editor
may switch between the two, and both are settled on relations first and then on the engine:

* does an edit that changes nothing change nothing?  `relation_round_trips`: the canonical text and
  the elements drawn for a relation give the relation back, and an engine that is given its own text
  keeps everything but the number of its last request;
* do both ways of editing mean the same?  `visual_edit_agrees`: a row of nodes and the text read off
  it give the same relation, and the same text in the request.

Labels and the places of coins are counted in words; the hypotheses that speak of `wordLimit` say no
more than that.  A run keeps its labels within it when the tokens handed to the engine do
(`fitsWord_run`).
-/

namespace CoinQuery

open CoinQuery.Text CoinQuery.Reply

/-- The labels handed over fit a word. -/
def Operation.FitsWord (o : Operation) : Prop := ∀ t ∈ o.tokens, t.FitsWord

instance : DecidablePred Operation.FitsWord := fun o =>
  inferInstanceAs (Decidable (∀ t ∈ o.tokens, t.FitsWord))

lemma Token.IsOwn.fitsWord {coins : CoinSet} {t : Token} (h : t.IsOwn coins) : t.FitsWord := by
  match t, h with
  | .ref (.coin id), _ => trivial
  | .ref (.label n), hn => exact hn
  | .op o, _ => trivial

lemma Token.FitsWord.bind {t : Token} (h : t.FitsWord) (coins : CoinSet) :
    (t.bind coins).FitsWord := by
  rcases t.isOwn_bind coins with hsame | hown
  · rwa [hsame]
  · exact hown.fitsWord

namespace Engine

/-! ## Labels of a run -/

lemma fitsWord_sync {e : Engine} (h : ∀ t ∈ e.relation, t.FitsWord) :
    ∀ t ∈ e.sync.2.relation, t.FitsWord := by
  intro t ht
  obtain ⟨u, hu, rfl⟩ := List.mem_map.mp ht
  exact (h u ((Relation.prune_sublist e.relation e.coins).subset hu)).bind e.coins

lemma fitsWord_step {e : Engine} {o : Operation} (ho : o.FitsWord)
    (h : ∀ t ∈ e.relation, t.FitsWord) : ∀ t ∈ (e.step o).2.relation, t.FitsWord := by
  have heffect := e.step_effect o
  generalize (e.step o).1 = reply, (e.step o).2 = next at heffect ⊢
  cases heffect with
  | aside _ _ same =>
    have hrelation : next.relation = e.relation := congrArg Compiled.relation same
    rwa [hrelation]
  | removal _ => exact h
  | synced edited edit =>
    apply fitsWord_sync
    intro t ht
    rcases edit.tokens t ht with hold | hgiven | hown
    · exact h t hold
    · exact ho t hgiven
    · exact hown.fitsWord

lemma fitsWord_run (config : Config) {operations : List Operation}
    (h : ∀ o ∈ operations, o.FitsWord) :
    ∀ t ∈ ((ofConfig config).run operations).relation, t.FitsWord :=
  run_induction (fun e _ => ∀ t ∈ e.relation, t.FitsWord) (fun t ht => by cases ht)
    (fun _ _ _ ho he => fitsWord_step ho he) operations h

/-! ## Editing nothing -/

/-- In step, the engine reads its own text as its relation. -/
lemma parse_relationText {e : Engine} (hstep : e.InStep)
    (hlabels : e.relation.LabelsUnresolved e.coins) (hfit : e.coins.length < wordLimit)
    (hword : ∀ t ∈ e.relation, t.FitsWord) :
    Relation.parse e.relationText e.coins = e.relation := by
  rw [hstep.text, Relation.parse_text hfit hword hstep.live, Relation.bind_eq_self hlabels]

/-- **A relation comes back from its text and from its nodes**, whatever the order of its tokens, if
none of its references is stale and none of its labels names a coin: reading the canonical text
gives it again, and so do the nodes made anew from the elements drawn for it, none of which is
refused.  Hence an engine that is given its own text, in any state without a removal since the
newest request, only gives out a number. -/
theorem relation_round_trips :
    (∀ (coins : CoinSet) (r : Relation), coins.length < wordLimit → (∀ t ∈ r, t.FitsWord) →
      r.stale coins = [] → r.LabelsUnresolved coins →
      Relation.parse (r.text coins) coins = r ∧
      ∀ elements : List (String × String),
        List.Forall₂ (fun element n => VisualNode.DrawnAs n element.1 element.2) elements
          (r.visual coins) →
        ∃ nodes,
          elements.mapM (fun element => VisualNode.ofParts? element.1 element.2) = some nodes ∧
          Relation.ofVisual nodes coins = r) ∧
    ∀ (config : Config) (operations : List Operation), (∀ o ∈ operations, o.FitsWord) →
      let e := (ofConfig config).run operations
      Settled ((ofConfig config).replies operations) → e.coins.length < wordLimit →
      (e.setRelationText e.relationText).2 =
        { e with sequencer := { e.sequencer with issued := e.sequencer.issued + 1 } } := by
  constructor
  · intro coins r hfit hword hlive hlabels
    have hbind : r.bind coins = r := Relation.bind_eq_self hlabels
    constructor
    · rw [Relation.parse_text hfit hword hlive, hbind]
    · intro elements hdrawn
      obtain ⟨nodes, hmade, hnodes⟩ := Relation.exists_ofVisual_of_drawnAs hfit hword hlive hdrawn
      exact ⟨nodes, hmade, hnodes.trans hbind⟩
  · intro config operations hgiven e hsettled hfit
    have hcoherent : e.Coherent _ := coherent_run config operations
    have hstep := hcoherent.inStep hsettled
    have hparse : Relation.parse e.relationText e.coins = e.relation :=
      parse_relationText hstep hcoherent.labels hfit (fitsWord_run config hgiven)
    rw [setRelationText, withRelation, hparse]
    exact congrArg Prod.snd (sync_eq_self hstep hcoherent.labels)

/-- Labels and words may stand in any order, the largest label of a word included; and a text read
with glued words comes back from an engine as it was read. -/
theorem relation_round_trips_glued :
    let coins : CoinSet := [⟨⟨3⟩, .empty⟩, ⟨⟨7⟩, .empty⟩]
    let r : Relation := [.label 0, .coin ⟨7⟩, .op .or, .op .not, .op .closeParen,
      .label (wordLimit - 1), .coin ⟨3⟩, .label 3]
    let elements := (r.visual coins).map fun n => ("op " ++ n.cssClass, n.text)
    let e := (ofConfig .default).run [.addCoin, .setRelationText "C1NOTC7"]
    Relation.parse (r.text coins) coins = r ∧
    (∃ nodes,
      elements.mapM (fun element => VisualNode.ofParts? element.1 element.2) = some nodes ∧
      Relation.ofVisual nodes coins = r) ∧
    (e.setRelationText e.relationText).2.relation = e.relation := by
  intro coins r elements e
  obtain ⟨hrelation, hengine⟩ := relation_round_trips
  have hlabels : r.LabelsUnresolved coins := by
    intro n hn
    have hn : n = 0 ∨ n = wordLimit - 1 ∨ n = 3 := by simpa [r] using hn
    rcases hn with rfl | rfl | rfl
    · exact Or.inl rfl
    · exact Or.inr (by decide)
    · exact Or.inr (by decide)
  obtain ⟨htext, hnodes⟩ := hrelation coins r (by decide) (by decide) (by decide) hlabels
  refine ⟨htext, hnodes elements ?_, ?_⟩
  · rw [List.forall₂_map_left_iff, List.forall₂_same]
    exact fun n _ => ⟨Or.inr rfl, fun _ _ => rfl⟩
  · rw [hengine .default [.addCoin, .setRelationText "C1NOTC7"] (by decide) (by decide) (by decide)]

/-! ## Two ways of editing -/

/-- The text of a request is that of the relation as it was edited, if there was nothing to prune.
-/
lemma relation_withRelation {e : Engine} (hd : e.coins.Distinct) {r : Relation}
    (hlive : (r.bind e.coins).stale e.coins = []) :
    (e.withRelation (r.bind e.coins)).1.relation = r.text e.coins := by
  calc (e.withRelation (r.bind e.coins)).1.relation
      = Relation.text (((r.bind e.coins).prune e.coins).bind e.coins) e.coins := rfl
    _ = r.text e.coins := by
      rw [Relation.prune_eq_self hlive, Relation.text_bind hd, Relation.text_bind hd]

/-- **Editing nodes and editing text agree.**  A row of nodes that the editor can hand back and the
text read off it give the same relation.  An engine with this set is left with the same relation by
both edits, and the text of both requests is the text read off the row. -/
theorem visual_edit_agrees (coins : CoinSet) (hd : coins.Distinct) (hfit : coins.length < wordLimit)
    (nodes : List VisualNode) (h : ∀ n ∈ nodes, n.IsCurrent coins) :
    Relation.ofVisual nodes coins = Relation.parse (VisualNode.textOf nodes) coins ∧
    ∀ e : Engine, e.coins = coins →
      (e.editVisual nodes).2.relation =
        (e.setRelationText (VisualNode.textOf nodes)).2.relation ∧
      (e.editVisual nodes).1.relation = VisualNode.textOf nodes ∧
      (e.setRelationText (VisualNode.textOf nodes)).1.relation = VisualNode.textOf nodes := by
  have hsame := Relation.ofVisual_eq_parse hfit h
  refine ⟨hsame, ?_⟩
  rintro e rfl
  have hlive : Relation.stale (nodes.map VisualNode.token) e.coins = [] :=
    VisualNode.stale_map_token h
  have htext : (e.editVisual nodes).1.relation = VisualNode.textOf nodes := by
    rw [VisualNode.textOf_eq_text h]
    exact relation_withRelation hd (Relation.stale_bind_eq_nil hlive)
  -- both edits replace the relation, so they agree in everything once they agree in that
  have hedits : e.editVisual nodes = e.setRelationText (VisualNode.textOf nodes) := by
    rw [editVisual, setRelationText, hsame]
  exact ⟨by rw [hedits], htext, by rw [← hedits, htext]⟩

/-- A node that was kept, one with its glyph retyped and one with a label typed anew. -/
theorem visual_edit_agrees_mixed :
    let coins : CoinSet := [⟨⟨3⟩, .empty⟩, ⟨⟨7⟩, .empty⟩]
    let nodes : List VisualNode := [⟨.coin ⟨7⟩, "C2"⟩, ⟨.op .or, "∨"⟩, ⟨.label 1, "C1"⟩]
    let e : Engine := { ofConfig .default with coins }
    Relation.ofVisual nodes coins = Relation.parse (VisualNode.textOf nodes) coins ∧
    (e.editVisual nodes).1.relation = "C2 OR C1" := by
  intro coins nodes e
  have hnodes : ∀ n ∈ nodes, n.IsCurrent coins := by
    intro n hn
    simp only [nodes, List.mem_cons, List.not_mem_nil, or_false] at hn
    rcases hn with rfl | rfl | rfl
    · exact .drawn [.coin ⟨7⟩] (by decide) (by decide) (by decide)
    · exact .rebuilt "op or" "" (by decide)
    · exact .rebuilt "id" " C1 " (by decide)
  obtain ⟨hsame, hengine⟩ := visual_edit_agrees coins (by decide) (by decide) nodes hnodes
  refine ⟨hsame, ?_⟩
  rw [(hengine e rfl).2.1]
  decide

end Engine

end CoinQuery
