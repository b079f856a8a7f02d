import CoinQuery.Proofs.Engine.Step
import CoinQuery.Proofs.Input

/-!
# What answers cannot reach

The engine is worked on from two sides.  The user edits the draft, the coins and the relation, and
each edit that changes what is compiled returns a request.  The services answer, and their answers
change the query, the results and the recommendations, which the user may then write over, turn the
pages of, or ask for again.  Nothing flows from the second side to the first, except where the user
picks a recommendation.

`Engine.withoutAnswers` blanks everything that answers can reach out of the state.  Two facts on one
operation carry the result: an answer leaves what remains as it is, and an edit does to what remains
the same thing whatever was blanked out, since none of that has a part in the decision.  The keys
of a description field are the reason that more has to be blanked out than the answers themselves:
polls take the lookup that waits, while the length of the text, which decides whether a descriptor
is taken away, is the user's.  The main result `Engine.run_ignores_answers` compares two runs.
-/

namespace CoinQuery

/-! ## The two sides -/

namespace Operation

/-- The one edit that uses an answer. -/
def isPick : Operation → Bool
  | pick _ _ _ => true
  | _ => false

/-- What the user does to draft, coins and relation in a sequence of operations. -/
def edits (operations : List Operation) : List Operation := operations.filter (!·.isAnswer)

end Operation

/-- The requests among the replies, in order. -/
def Reply.requests (replies : List Reply) : List CompileRequest := replies.filterMap request?

lemma Reply.requests_cons (reply : Reply) (replies : List Reply) :
    requests (reply :: replies) = reply.request?.toList ++ requests replies := by
  rw [requests, List.filterMap_cons]
  cases reply.request? <;> rfl

/-- The field without a lookup that waits. -/
def DescriptionInput.withoutPending (i : DescriptionInput) : DescriptionInput :=
  { i with debouncer := i.debouncer.cancel }

lemma DescriptionInput.withoutPending_poll (i : DescriptionInput) (now : Nat) :
    (i.poll now).2.withoutPending = i.withoutPending := by
  cases hanswer : (i.poll now).1 with
  | none => rw [poll_snd_of_none hanswer]
  | some query => rw [poll_snd_of_some hanswer]; rfl

/-- The face with everything blank that answers can reach. -/
def Face.withoutAnswers (f : Face) : Face :=
  { f with input := f.input.withoutPending, recommendations := .empty }

namespace Operation

variable {o : Operation}

/-- An answer does no other work than to bring in recommendations. -/
lemma work_of_answer (h : o.isAnswer = true) (f : Face) :
    (o.work f).2.withoutAnswers = f.withoutAnswers := by
  cases o with
  | applyRecommendations side response =>
    simp only [work]
    split <;> rfl
  | poll _ | applyCompile _ _ | setQueryText _ | applySearch _ | results _ => rfl
  | _ => cases h

/-- Other work than picking has the same result whatever was blanked out. -/
lemma work_withoutAnswers (hanswer : o.isAnswer = false) (hpick : o.isPick = false) (f : Face) :
    (o.work f.withoutAnswers).2.withoutAnswers = (o.work f).2.withoutAnswers := by
  cases o with
  | keyUp side key text now =>
    -- a key cancels what waits, so it does not depend on it
    have hsame : f.withoutAnswers.input.keyUp key text now = f.input.keyUp key text now := rfl
    simp only [work, hsame]
    cases (f.input.keyUp key text now).1 <;> rfl
  | applyRecommendations _ _ => cases hanswer
  | pick _ _ _ => cases hpick
  | _ => rfl

end Operation

namespace Engine

/-- The engine with everything blank that answers can reach. -/
def withoutAnswers (e : Engine) : Engine :=
  { e with
    sequencer := ⟨e.sequencer.issued, 0⟩
    queryText := ""
    results := .new
    inputs := ⟨e.inputs.obverse.withoutPending, e.inputs.reverse.withoutPending⟩
    recommendations := .uniform .empty }

lemma face_withoutAnswers (e : Engine) (side : Side) :
    e.withoutAnswers.face side = (e.face side).withoutAnswers := by
  cases side <;> rfl

lemma withoutAnswers_setFace (e : Engine) (side : Side) (f : Face) :
    (e.setFace side f).withoutAnswers = e.withoutAnswers.setFace side f.withoutAnswers := by
  cases side <;> rfl

/-! ## One operation -/

/-- A poll reaches the fields and nothing else. -/
lemma poll_snd (e : Engine) (now : Nat) : (e.poll now).2 =
    { e with inputs := ⟨(e.inputs.obverse.poll now).2, (e.inputs.reverse.poll now).2⟩ } :=
  rfl

/-- An answer returns no request and reaches nothing else. -/
lemma withoutAnswers_of_answer {o : Operation} (h : o.isAnswer = true) (e : Engine) :
    (e.step o).1.request? = none ∧ (e.step o).2.withoutAnswers = e.withoutAnswers := by
  obtain ⟨act, decision, hact⟩ := e.step_eq_act o
  rw [hact]
  cases decision with
  | refused told _ => exact ⟨told.request?, rfl⟩
  | @worked _ side on =>
    refine ⟨(o.quiet_work _).1, ?_⟩
    rw [withoutAnswers_setFace, Operation.work_of_answer h, ← face_withoutAnswers, setFace_face]
  | polled now =>
    refine ⟨rfl, ?_⟩
    rw [poll_snd]
    simp only [withoutAnswers, DescriptionInput.withoutPending_poll]
  | answered seq response =>
    obtain ⟨mark, text, hnext⟩ := e.applyCompile_snd seq response
    refine ⟨rfl, ?_⟩
    rw [hnext]
    rfl
  | written text => exact ⟨rfl, rfl⟩
  | searched _ => exact ⟨rfl, rfl⟩
  | turned operation => exact ⟨by cases operation <;> rfl, rfl⟩
  | revised _ _ _ _ _ edits _ => exact absurd h (by simp [edits])
  | cleared | loaded _ | added | removed _ => cases h

/-- An edit returns the same request and has the same effect whatever was blanked out. -/
lemma withoutAnswers_of_edit {o : Operation} (hanswer : o.isAnswer = false)
    (hpick : o.isPick = false) (e : Engine) :
    (e.withoutAnswers.step o).1.request? = (e.step o).1.request? ∧
      (e.withoutAnswers.step o).2.withoutAnswers = (e.step o).2.withoutAnswers := by
  obtain ⟨act, decision, hact⟩ := e.exists_decision o
  -- nothing that decides was blanked out, so both engines decide the same
  have hstep : e.step o = act e := hact e
  have hblank : e.withoutAnswers.step o = act e.withoutAnswers := hact e.withoutAnswers
  rw [hstep, hblank]
  cases decision with
  | @worked _ side on =>
    refine ⟨?_, ?_⟩
    · rw [(o.quiet_work _).1, (o.quiet_work _).1]
    · rw [withoutAnswers_setFace, withoutAnswers_setFace, face_withoutAnswers,
        Operation.work_withoutAnswers hanswer hpick]
      rfl
  | refused _ _ | cleared | loaded _ | added | removed _ | revised _ _ _ _ _ _ _ => exact ⟨rfl, rfl⟩
  | polled _ | answered _ _ | written _ | searched _ | turned _ => cases hanswer

/-- Engines that differ in what answers can reach go on to differ in nothing else. -/
lemma withoutAnswers_step {e f : Engine} (hsame : e.withoutAnswers = f.withoutAnswers)
    {o : Operation} (hanswer : o.isAnswer = false) (hpick : o.isPick = false) :
    (e.step o).1.request? = (f.step o).1.request? ∧
      (e.step o).2.withoutAnswers = (f.step o).2.withoutAnswers := by
  obtain ⟨herequest, herest⟩ := withoutAnswers_of_edit hanswer hpick e
  obtain ⟨hfrequest, hfrest⟩ := withoutAnswers_of_edit hanswer hpick f
  rw [hsame] at herequest herest
  exact ⟨herequest.symm.trans hfrequest, herest.symm.trans hfrest⟩

/-! ## Two runs -/

/-- A run returns the requests of its edits alone, and leaves what they leave. -/
lemma withoutAnswers_run {operations : List Operation}
    (hpick : ∀ o ∈ operations, o.isPick = false) {e f : Engine}
    (hsame : e.withoutAnswers = f.withoutAnswers) :
    Reply.requests (e.replies operations) =
        Reply.requests (f.replies (Operation.edits operations)) ∧
      (e.run operations).withoutAnswers =
        (f.run (Operation.edits operations)).withoutAnswers := by
  induction operations generalizing e f with
  | nil => exact ⟨rfl, hsame⟩
  | cons o rest ih =>
    obtain ⟨ho, hrest⟩ := List.forall_mem_cons.mp hpick
    cases hanswer : o.isAnswer with
    | true =>
      obtain ⟨hquiet, hkept⟩ := withoutAnswers_of_answer hanswer e
      have hedits : Operation.edits (o :: rest) = Operation.edits rest := by
        simp [Operation.edits, hanswer]
      rw [hedits, replies, Reply.requests_cons, hquiet]
      exact ih hrest (hkept.trans hsame)
    | false =>
      obtain ⟨hrequest, hnext⟩ := withoutAnswers_step hsame hanswer ho
      have hedits : Operation.edits (o :: rest) = o :: Operation.edits rest := by
        simp [Operation.edits, hanswer]
      obtain ⟨hrequests, hlast⟩ := ih hrest hnext
      rw [hedits, replies, replies, Reply.requests_cons, Reply.requests_cons, hrequest, hrequests]
      exact ⟨rfl, hlast⟩

/-- **What answers bring cannot influence what is compiled.**  Take two runs of fresh engines with
one configuration in which the user makes the same edits and picks no recommendation.  Whatever
answers come in between, in either run, and whatever is done to the query and the results, both runs
return the same requests, and end with the same draft, coins, relation and text. -/
theorem run_ignores_answers (config : Config) (first second : List Operation)
    (hfirst : ∀ o ∈ first, o.isPick = false) (hsecond : ∀ o ∈ second, o.isPick = false)
    (hedits : Operation.edits first = Operation.edits second) :
    let start := ofConfig config
    let e := start.run first
    let f := start.run second
    Reply.requests (start.replies first) = Reply.requests (start.replies second) ∧
    e.mint.draft = f.mint.draft ∧ e.coins = f.coins ∧ e.relation = f.relation ∧
    e.relationText = f.relationText := by
  intro start e f
  obtain ⟨herequests, helast⟩ := withoutAnswers_run hfirst (rfl : start.withoutAnswers = _)
  obtain ⟨hfrequests, hflast⟩ := withoutAnswers_run hsecond (rfl : start.withoutAnswers = _)
  have hlast : e.withoutAnswers = f.withoutAnswers := by rw [helast, hflast, hedits]
  refine ⟨by rw [herequests, hfrequests, hedits], ?_, ?_, ?_, ?_⟩
  · exact congrArg (·.mint.draft) hlast
  · exact congrArg (·.coins) hlast
  · exact congrArg (·.relation) hlast
  · exact congrArg (·.relationText) hlast

/-- One run never hears an answer; the other hears a forged one, a late one and a poll between two
backspaces, and what it shows differs. -/
theorem run_ignores_answers_between_keys :
    let first : List Operation :=
      [.addKeyword .obverse "owl", .keyUp .obverse .backspace "" 0,
        .keyUp .obverse .backspace "" 10, .addCoin, .addCoin]
    let second : List Operation :=
      [.applyCompile 9 (.ok "forged"), .addKeyword .obverse "owl",
        .keyUp .obverse .backspace "" 0, .poll 500, .keyUp .obverse .backspace "" 10, .addCoin,
        .applyCompile 1 (.ok "late"), .applySearch (.ok []), .addCoin]
    let e := (ofConfig .default).run first
    let f := (ofConfig .default).run second
    e.coins = f.coins ∧ e.relationText = f.relationText ∧ e.queryText ≠ f.queryText := by
  intro first second e f
  obtain ⟨-, -, hcoins, -, htext⟩ :=
    run_ignores_answers .default first second (by decide) (by decide) rfl
  exact ⟨hcoins, htext, by decide⟩

end Engine

end CoinQuery
