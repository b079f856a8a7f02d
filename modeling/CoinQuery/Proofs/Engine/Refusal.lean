import CoinQuery.Proofs.Engine.Answers

/-!
# Refusals change nothing

Many operations can be refused: a blank keyword, a coin or a token at an index where there is none,
a page out of range, an answer that is no success.  A refusal is told by the reply alone
(`Reply.IsRefusal`), so whoever sees one must be able to count on the state that was there before.

An operation decides before it acts, and what remains to be shown is that the layers below decide in
the same way: a side of the draft, where taking nothing away is still written back
(`Operation.work_of_refused`), and a set of results, where a page is turned by asking for another
(`ResultSet.step_of_refused`).  One refusal leaves a trace, by design: a failure that is accepted as
the answer to a request is an answer still.  The main result `Engine.run_refuses` says so of every
state that a run can reach.
-/

namespace CoinQuery

/-! ## One side of the draft -/

namespace SideDescription

variable {s : SideDescription} {text : String}

lemma removeLastDescriptor_of_refused (h : s.removeLastDescriptor.1.isSome = false) :
    s.removeLastDescriptor.2 = s := by
  obtain ⟨descriptors, keywords⟩ := s
  have hnone : descriptors.getLast? = none := Option.isNone_iff_eq_none.mp
    (Option.isSome_eq_false_iff.mp h)
  obtain rfl : descriptors = [] := List.getLast?_eq_none_iff.mp hnone
  rfl

lemma addKeyword_of_refused (h : (s.addKeyword text).1 = false) : (s.addKeyword text).2 = s := by
  simp only [addKeyword] at h ⊢
  split at h
  · rename_i hblank
    rw [if_pos hblank]
  · cases h

lemma toggleKeyword_of_refused (h : (s.toggleKeyword text).1 = none) :
    (s.toggleKeyword text).2 = s := by
  simp only [toggleKeyword] at h ⊢
  split at h
  · cases h
  · rfl

lemma removeKeyword_of_refused (h : (s.removeKeyword text).1 = none) :
    (s.removeKeyword text).2 = s := by
  simp only [removeKeyword] at h ⊢
  split at h
  · cases h
  · rfl

end SideDescription

/-- Work that is refused is written back, and leaves the face as it is. -/
lemma Operation.work_of_refused {o : Operation} {f : Face} (h : (o.work f).1.IsRefusal) :
    (o.work f).2 = f := by
  have hback : ∀ s, s = f.description → { f with description := s } = f := by
    rintro s rfl
    rfl
  cases o with
  | removeLastDescriptor side => exact hback _ (SideDescription.removeLastDescriptor_of_refused h)
  | addKeyword side text => exact hback _ (SideDescription.addKeyword_of_refused h)
  | toggleKeyword side text => exact hback _ (SideDescription.toggleKeyword_of_refused h)
  | removeKeyword side text => exact hback _ (SideDescription.removeKeyword_of_refused h)
  | applyRecommendations _ _ | pick _ _ _ =>
    simp only [work] at h ⊢
    split at h
    · cases h
    · rfl
  | addDescriptor _ _ | keyUp _ _ _ _ => cases h
  | _ => rfl

/-! ## Results -/

namespace ResultSet

lemma setPage_of_refused {s : ResultSet} {n : Nat} (h : (s.setPage n).1 = false) :
    (s.setPage n).2 = s := by
  rw [setPage] at h ⊢
  split at h
  · cases h
  · rename_i hn
    rw [if_neg hn]

lemma previousPage_of_refused {s : ResultSet} (h : s.previousPage.1 = false) :
    s.previousPage.2 = s := by
  rw [previousPage] at h ⊢
  split at h
  · rename_i hpage
    rw [if_pos hpage]
    exact setPage_of_refused h
  · rename_i hpage
    rw [if_neg hpage]

lemma step_of_refused {s : ResultSet} {o : ResultOperation} (h : (s.step o).1 = some false) :
    (s.step o).2 = s := by
  cases o with
  | setResults records => cases h
  | sort spec => cases h
  | setPage n => exact setPage_of_refused (Option.some.inj h)
  | nextPage => exact setPage_of_refused (Option.some.inj h)
  | previousPage => exact previousPage_of_refused (Option.some.inj h)

end ResultSet

namespace Engine

/-! ## One operation -/

/-- A refusal leaves the engine as it is, unless it is the refusal of an answer. -/
lemma step_of_refused {e : Engine} {o : Operation}
    (ho : ∀ seq response, o ≠ .applyCompile seq response) (h : (e.step o).1.IsRefusal) :
    (e.step o).2 = e := by
  obtain ⟨act, decision, hact⟩ := e.step_eq_act o
  rw [hact] at h ⊢
  cases decision with
  | refused _ _ => rfl
  | @worked _ side on =>
    have hface : (o.work (e.face side)).2 = e.face side := Operation.work_of_refused h
    change e.setFace side (o.work (e.face side)).2 = e
    rw [hface, setFace_face]
  | turned operation =>
    have hrefused : (e.results.step operation).1 = some false := by
      change Reply.IsRefusal (((e.results.step operation).1.map .flag).getD .done) at h
      cases hreply : (e.results.step operation).1 with
      | none => rw [hreply] at h; cases h
      | some turned => rw [hreply] at h; exact congrArg some h
    exact congrArg (fun results => { e with results }) (ResultSet.step_of_refused hrefused)
  | answered seq response => exact absurd rfl (ho seq response)
  -- what is never refused
  | cleared | loaded _ | added | removed _ | revised _ _ _ _ _ _ _ | polled _ | written _
  | searched _ => cases h

/-- An answer that returns false is either not accepted, or a failure that is. -/
lemma applyCompile_of_refused {e : Engine} {seq : Nat} {response : CompileResponse}
    (h : (e.applyCompile seq response).1 = false) :
    (e.applyCompile seq response).2 =
      if (e.sequencer.accept seq).1 = true
      then { e with sequencer := { e.sequencer with answered := seq } } else e := by
  rcases e.applyCompile_cases seq response with ⟨hrefused, hanswer⟩ | ⟨haccepted, -, hanswer⟩ |
    ⟨-, -, text, -, hanswer⟩
  · rw [hanswer, if_neg hrefused]
  · rw [hanswer, if_pos haccepted]
  · rw [hanswer] at h
    cases h

/-! ## Runs -/

/-- After a run those answers are accepted whose number was given out and is above all numbers
accepted before. -/
lemma accept_run_iff (config : Config) (operations : List Operation) (seq : Nat) :
    (((ofConfig config).run operations).sequencer.accept seq).1 = true ↔
      seq ∈ Reply.issued ((ofConfig config).replies operations) ∧
        ∀ n ∈ (ofConfig config).accepted operations, n < seq := by
  rw [(acknowledged_run config operations).accept_fst_iff, issued_replies, List.mem_range'_1,
    Nat.lt_one_add_iff]
  rfl

/-- **What is refused changes nothing.**  In every state that a run of a fresh engine can reach, an
operation whose reply is a refusal leaves the whole state as it is: draft, coins, relation and text,
numbers, query, results, fields and recommendations.  An answer to a compile request that returns
false leaves it so too, but for this: if its number was given out and is above every number
answered, it counts as answered from now on. -/
theorem run_refuses (config : Config) (operations : List Operation) :
    let start := ofConfig config
    let e := start.run operations
    let issued := Reply.issued (start.replies operations)
    let accepted := start.accepted operations
    (∀ o, (∀ seq response, o ≠ .applyCompile seq response) → (e.step o).1.IsRefusal →
      (e.step o).2 = e) ∧
    ∀ seq response, (e.applyCompile seq response).1 = false →
      (e.applyCompile seq response).2 =
        if seq ∈ issued ∧ ∀ n ∈ accepted, n < seq
        then { e with sequencer := { e.sequencer with answered := seq } } else e := by
  intro start e issued accepted
  refine ⟨fun _ => step_of_refused, ?_⟩
  intro seq response h
  rw [applyCompile_of_refused h]
  exact if_congr (accept_run_iff config operations seq) rfl rfl

/-- Editing a coin that is not there keeps the draft, and a failure counts as an answer. -/
theorem run_refuses_missing_coin :
    let operations : List Operation := [.addCoin, .addCoin, .addKeyword .obverse "owl"]
    let e := (ofConfig .default).run operations
    (e.step (.editCoin 2)).2 = e ∧ (e.applyCompile 1 (.failed "syntax error")).2.sequencer = ⟨2, 1⟩ ∧
      (e.applyCompile 3 (.ok "forged")).2 = e := by
  intro operations e
  obtain ⟨hrefused, hanswer⟩ := run_refuses .default operations
  refine ⟨hrefused (.editCoin 2) (fun _ _ h => by cases h) rfl, ?_, ?_⟩
  · rw [hanswer 1 (.failed "syntax error") rfl, if_pos (by decide)]
    rfl
  · rw [hanswer 3 (.ok "forged") rfl, if_neg (by decide)]

end Engine

end CoinQuery
