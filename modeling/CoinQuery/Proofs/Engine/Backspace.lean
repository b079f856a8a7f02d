import CoinQuery.Proofs.Engine.History
import CoinQuery.Proofs.Input

/-!
# Backspaces and descriptors

A backspace in an empty description field takes the last descriptor of its side away.  A key comes
with the text that the field holds after it; whether the field was empty before is not told, and the
field answers by the text that was reported last.

So what becomes of a descriptor hangs on what the field heard before (`Engine.hears`): the keys on
its side, and that it was emptied, because a recommendation was picked, the draft was cleared or a
coin was edited or added.  `Engine.inputs_step` says what an operation does to the field of a side,
and `Engine.inputs_run` that the field is what a field of its own makes of what it hears in a run.
The main result `Engine.run_drops_descriptor` tells when a descriptor goes.  While all text comes in
by keys that are reported, none goes unless the field is empty.  Text that came in unseen makes the
difference (`Engine.run_drops_descriptor_beside_text`).
-/

namespace CoinQuery

open DescriptionInput (Event)

/-- A field asks for a descriptor to go when a backspace leaves too little for a lookup and the text
reported before it was empty. -/
lemma DescriptionInput.removes_iff (quiet minChars : Nat) (events : List Event) (key : Key)
    (text : String) (now : Nat) :
    (((new quiet minChars).run events).keyUp key text now).1 = .removeLastDescriptor ↔
      key = .backspace ∧ text.length ≤ minChars ∧ (Event.lastText? events).getD "" = "" := by
  have hminChars : ((new quiet minChars).run events).minChars = minChars := (quiet_run _ events).2
  rw [keyUp_fst_eq_removeLastDescriptor_iff, ne_eq, keyUp_fst_eq_scheduled_iff, hminChars,
    lastLength_run, String.length_eq_zero_iff]
  constructor
  · rintro ⟨hcalls, rfl, hempty⟩
    exact ⟨rfl, by simpa [Key.callsForLookup] using hcalls, hempty⟩
  · rintro ⟨rfl, htext, hempty⟩
    exact ⟨fun h => absurd h.1 (Nat.not_lt.mpr htext), rfl, hempty⟩

namespace Engine

/-! ## What a field hears -/

/-- Work on another side is not heard. -/
lemma hears_of_other {o : Operation} {worked side : Side} (on : o.side? = some worked)
    (h : worked ≠ side) (e : Engine) : e.hears side o = none := by
  cases o with
  | keyUp pressed key text now =>
    cases on
    exact if_neg h
  | pick picked category index =>
    cases on
    exact if_neg h
  | poll _ | clearDraft | addCoin | editCoin _ => cases on
  | _ => rfl

/-- Work on a side does to its field what the field makes of hearing of it. -/
lemma input_work {o : Operation} {side : Side} (on : o.side? = some side) (e : Engine) :
    (o.work (e.face side)).2.input =
      (e.hears side o).elim (e.inputs.get side) (e.inputs.get side).step := by
  cases o with
  | keyUp pressed key text now =>
    cases on
    have hinput : (e.face side).input = e.inputs.get side := rfl
    rw [hears, if_pos rfl]
    simp only [Operation.work, hinput]
    split <;> rfl
  | pick picked category index =>
    cases on
    have hlisted : (e.face side).recommendations = e.recommendations.get side := rfl
    rw [hears, if_pos rfl]
    simp only [Operation.work, hlisted]
    cases (e.recommendations.get side).item? category index <;> rfl
  | applyRecommendations _ response =>
    simp only [Operation.work]
    split <;> rfl
  | poll _ | clearDraft | addCoin | editCoin _ => cases on
  | _ => rfl

/-- An operation does to the field of a side what the field makes of hearing of it. -/
lemma inputs_step (side : Side) (e : Engine) (o : Operation) :
    (e.step o).2.inputs.get side =
      (e.hears side o).elim (e.inputs.get side) (e.inputs.get side).step := by
  obtain ⟨act, decision, hact⟩ := e.step_eq_act o
  rw [hact]
  cases decision with
  | @worked _ worked on =>
    by_cases hside : worked = side
    · subst hside
      rw [← input_work on]
      exact Sides.get_set_same _ _ _
    · rw [hears_of_other on hside]
      exact Sides.get_set_other _ hside _
  | refused _ unheard => rw [unheard side]; rfl
  | revised _ _ _ _ _ _ unheard => rw [unheard side]; rfl
  | loaded found => rw [hears, found]; cases side <;> rfl
  | cleared | added | polled now => cases side <;> rfl
  | answered seq response =>
    obtain ⟨mark, text, hnext⟩ := e.applyCompile_snd seq response
    rw [hnext]
    rfl
  | removed _ | written _ | searched _ | turned _ => rfl

/-- After a run, the field of a side is what a field of its own makes of what it heard. -/
lemma inputs_run (config : Config) (operations : List Operation) (side : Side) :
    ((ofConfig config).run operations).inputs.get side =
      (DescriptionInput.new config.debounceMs config.minQueryChars).run
        ((ofConfig config).history (hears side) operations) := by
  refine history_induction
    (fun e heard => e.inputs.get side =
      (DescriptionInput.new config.debounceMs config.minQueryChars).run heard)
    (by cases side <;> rfl) (fun e heard o ih => ?_) operations
  rw [inputs_step]
  cases e.hears side o with
  | none => rw [Option.toList_none, List.append_nil]; exact ih
  | some event =>
    rw [Option.toList_some, DescriptionInput.run_concat, ← ih]
    rfl

/-! ## What a key does to the draft -/

lemma keyUp_fst (e : Engine) (side : Side) (key : Key) (text : String) (now : Nat) :
    (e.keyUp side key text now).1 = ((e.inputs.get side).keyUp key text now).1 := by
  simp only [keyUp]
  split <;> rfl

lemma draft_keyUp (e : Engine) (side : Side) (key : Key) (text : String) (now : Nat) :
    (e.keyUp side key text now).2.mint.draft =
      if (e.keyUp side key text now).1 = .removeLastDescriptor then
        e.mint.draft.modify side fun s => { s with descriptors := s.descriptors.dropLast }
      else e.mint.draft := by
  rw [keyUp_fst]
  cases haction : ((e.inputs.get side).keyUp key text now).1 <;> simp only [keyUp, haction] <;> rfl

/-- **A backspace takes a descriptor away when nothing was in the field, as far as it was told.**

The key must be the backspace, the text after it too short for a lookup, and the text reported last,
if any since the field was emptied, must have been empty.  Then the last descriptor of the side
goes, and nothing else of the draft; otherwise the draft stays as it is.  So if the backspace left
no more text than was reported before it, as it does when all text comes in by keys, or if every
text but the empty one is long enough for a lookup, a descriptor goes from an empty field only. -/
theorem run_drops_descriptor (config : Config) (operations : List Operation) (side : Side)
    (key : Key) (text : String) (now : Nat) :
    let start := ofConfig config
    let e := start.run operations
    let reported := (Event.lastText? (start.history (hears side) operations)).getD ""
    let action := (e.keyUp side key text now).1
    (action = .removeLastDescriptor ↔
      key = .backspace ∧ text.length ≤ config.minQueryChars ∧ reported = "") ∧
    (e.keyUp side key text now).2.mint.draft =
      (if action = .removeLastDescriptor then
        e.mint.draft.modify side fun s => { s with descriptors := s.descriptors.dropLast }
      else e.mint.draft) ∧
    (text.length ≤ reported.length ∨ config.minQueryChars = 0 →
      action = .removeLastDescriptor → key = .backspace ∧ text = "") := by
  intro start e reported action
  have haction : action = .removeLastDescriptor ↔
      key = .backspace ∧ text.length ≤ config.minQueryChars ∧ reported = "" := by
    have hfst : action = ((e.inputs.get side).keyUp key text now).1 :=
      keyUp_fst e side key text now
    have hfield : e.inputs.get side =
        (DescriptionInput.new config.debounceMs config.minQueryChars).run
          (start.history (hears side) operations) :=
      inputs_run config operations side
    rw [hfst, hfield]
    exact DescriptionInput.removes_iff _ _ _ key text now
  refine ⟨haction, draft_keyUp e side key text now, fun hall hremoves => ?_⟩
  obtain ⟨hkey, htext, hempty⟩ := haction.mp hremoves
  have hnone : text.length = 0 := by
    rcases hall with hless | hzero
    · rw [hempty] at hless
      exact Nat.le_zero.mp hless
    · exact Nat.le_zero.mp (hzero ▸ htext)
  exact ⟨hkey, String.length_eq_zero_iff.mp hnone⟩

/-- The backspaces that shorten the text and empty the field spare the descriptor, and the next one
takes it away. -/
theorem run_drops_descriptor_emptied :
    let plant : Descriptor := ⟨.plant, ⟨.empty⟩⟩
    let typed : List Operation :=
      [.addDescriptor .obverse plant, .keyUp .obverse (.char 'b') "ab" 0]
    let e := (ofConfig .default).run typed
    let emptied := (e.step (.keyUp .obverse .backspace "" 1)).2
    let left := ""
    (e.keyUp .obverse .backspace "a" 1).1 ≠ .removeLastDescriptor ∧
      emptied.mint.draft = ⟨⟨[plant], []⟩, .empty⟩ ∧
      (emptied.keyUp .obverse .backspace left 2).1 = .removeLastDescriptor ∧
      (emptied.keyUp .obverse .backspace left 2).2.mint.draft = .uniform .empty ∧ left = "" := by
  intro plant typed e emptied left
  obtain ⟨-, -, hspared⟩ := run_drops_descriptor .default typed .obverse .backspace "a" 1
  obtain ⟨hremoves, hdraft, hempty⟩ := run_drops_descriptor .default
    (typed ++ [.keyUp .obverse .backspace "" 1]) .obverse .backspace left 2
  have hremoved : (emptied.keyUp .obverse .backspace left 2).1 = .removeLastDescriptor :=
    hremoves.mpr ⟨rfl, by decide, by decide⟩
  refine ⟨fun h => ?_, rfl, hremoved, hdraft.trans rfl, (hempty (Or.inl (by decide)) hremoved).2⟩
  obtain ⟨-, htext⟩ := hspared (Or.inl (by decide)) h
  exact absurd htext (by decide)

/-- Text that no key reported is not reckoned with: when a backspace shortens it and is the first
key that the field hears of, the descriptor goes and the text stays. -/
theorem run_drops_descriptor_beside_text :
    let plant : Descriptor := ⟨.plant, ⟨.empty⟩⟩
    let e := (ofConfig .default).run [.addDescriptor .obverse plant]
    let text := "a"
    (e.keyUp .obverse .backspace text 0).1 = .removeLastDescriptor ∧
      (e.mint.draft.get .obverse).descriptors = [plant] ∧
      ((e.keyUp .obverse .backspace text 0).2.mint.draft.get .obverse).descriptors = [] ∧
      text ≠ "" :=
  ⟨rfl, rfl, rfl, by decide⟩

end Engine

end CoinQuery
