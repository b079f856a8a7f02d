import CoinQuery.Engine.Operation
import Mathlib.Tactic.Lemma

/-!
# One answer to a compile request

An answer counts if its number was given out and is above that of every answer that counted before.
If it counts and is a success, its result becomes the query; if it counts and is none, it moves the
mark of what was answered and nothing else; and otherwise nothing happens
(`Engine.applyCompile_cases`).
-/

namespace CoinQuery

/-- The answer is a success that carries a result. -/
def Response.IsSuccess {α : Type} (r : Response α) : Prop :=
  r.success = true ∧ ∃ result, r.result = some result

namespace CompileSequencer

variable {s : CompileSequencer} {seq : Nat}

lemma accept_of_fresh (hnew : s.answered < seq) (hissued : seq ≤ s.issued) :
    s.accept seq = (true, { s with answered := seq }) := by
  simp [accept, hnew, hissued]

lemma accept_of_not_fresh (h : ¬ (s.answered < seq ∧ seq ≤ s.issued)) :
    s.accept seq = (false, s) := by
  simpa [accept] using h

lemma accept_fst_iff : (s.accept seq).1 = true ↔ s.answered < seq ∧ seq ≤ s.issued := by
  by_cases h : s.answered < seq ∧ seq ≤ s.issued
  · simp [accept_of_fresh h.1 h.2, h]
  · simp [accept_of_not_fresh h, h]

end CompileSequencer

namespace Engine

/-- An answer that is not accepted changes nothing. -/
lemma applyCompile_of_not_accepted {e : Engine} {seq : Nat}
    (h : ¬ (e.sequencer.accept seq).1 = true) (response : CompileResponse) :
    e.applyCompile seq response = (false, e) := by
  have hrefused : e.sequencer.accept seq = (false, e.sequencer) :=
    CompileSequencer.accept_of_not_fresh (mt CompileSequencer.accept_fst_iff.mpr h)
  simp only [applyCompile, hrefused]
  rfl

/-- A success that is accepted brings its result in as the query. -/
lemma applyCompile_of_success {e : Engine} {seq : Nat} (h : (e.sequencer.accept seq).1 = true)
    {response : CompileResponse} {text : String} (hsuccess : response.success = true)
    (htext : response.result = some text) :
    e.applyCompile seq response = (true, { e with
      sequencer := { e.sequencer with answered := seq }, queryText := text }) := by
  obtain ⟨hnew, hissued⟩ := CompileSequencer.accept_fst_iff.mp h
  simp [applyCompile, CompileSequencer.accept_of_fresh hnew hissued, Response.outcome, hsuccess,
    htext]

/-- A failure that is accepted moves the mark and nothing else. -/
lemma applyCompile_of_failure {e : Engine} {seq : Nat} (h : (e.sequencer.accept seq).1 = true)
    {response : CompileResponse} (hfailure : ¬ response.IsSuccess) :
    e.applyCompile seq response =
      (false, { e with sequencer := { e.sequencer with answered := seq } }) := by
  obtain ⟨hnew, hissued⟩ := CompileSequencer.accept_fst_iff.mp h
  obtain ⟨success, result, error, message, length⟩ := response
  cases success <;> cases result <;>
    simp_all [applyCompile, CompileSequencer.accept_of_fresh, Response.outcome, Response.IsSuccess]

/-- What can come of an answer. -/
lemma applyCompile_cases (e : Engine) (seq : Nat) (response : CompileResponse) :
    (¬ (e.sequencer.accept seq).1 = true ∧ e.applyCompile seq response = (false, e)) ∨
    ((e.sequencer.accept seq).1 = true ∧ ¬ response.IsSuccess ∧ e.applyCompile seq response =
      (false, { e with sequencer := { e.sequencer with answered := seq } })) ∨
    ((e.sequencer.accept seq).1 = true ∧ response.IsSuccess ∧
      ∃ text, response.result = some text ∧ e.applyCompile seq response = (true, { e with
        sequencer := { e.sequencer with answered := seq }, queryText := text })) := by
  by_cases haccepted : (e.sequencer.accept seq).1 = true
  · by_cases hsuccess : response.IsSuccess
    · obtain ⟨htrue, text, htext⟩ := hsuccess
      exact Or.inr (Or.inr ⟨haccepted, ⟨htrue, text, htext⟩, text, htext,
        applyCompile_of_success haccepted htrue htext⟩)
    · exact Or.inr (Or.inl ⟨haccepted, hsuccess, applyCompile_of_failure haccepted hsuccess⟩)
  · exact Or.inl ⟨haccepted, applyCompile_of_not_accepted haccepted response⟩

lemma applyCompile_fst_iff {e : Engine} {seq : Nat} {response : CompileResponse} :
    (e.applyCompile seq response).1 = true ↔
      (e.sequencer.accept seq).1 = true ∧ response.IsSuccess := by
  rcases e.applyCompile_cases seq response with ⟨hrefused, hanswer⟩ |
    ⟨-, hfailure, hanswer⟩ | ⟨haccepted, hsuccess, text, -, hanswer⟩ <;> rw [hanswer]
  · exact iff_of_false Bool.false_ne_true fun h => hrefused h.1
  · exact iff_of_false Bool.false_ne_true fun h => hfailure h.2
  · exact iff_of_true rfl ⟨haccepted, hsuccess⟩

/-- An answer reaches the mark and the query, and nothing else. -/
lemma applyCompile_snd (e : Engine) (seq : Nat) (response : CompileResponse) :
    ∃ mark text, (e.applyCompile seq response).2 =
      { e with sequencer := { e.sequencer with answered := mark }, queryText := text } := by
  rcases e.applyCompile_cases seq response with ⟨-, hanswer⟩ | ⟨-, -, hanswer⟩ |
    ⟨-, -, text, -, hanswer⟩
  · exact ⟨e.sequencer.answered, e.queryText, by rw [hanswer]⟩
  · exact ⟨seq, e.queryText, by rw [hanswer]⟩
  · exact ⟨seq, text, by rw [hanswer]⟩

end Engine

end CoinQuery
