import CoinQuery.Proofs.Engine.Step

/-!
# What is noted along a run

Some facts about a run cannot be read off the engine that it ends with: which answers were accepted,
which coins were struck.  `Engine.history` collects them on the way.  An invariant of a run then
speaks of the engine and of what was noted so far, and goes through the induction
`Engine.history_induction`.
-/

namespace CoinQuery.Engine

variable {α : Type}

/-- What `note` says of each operation of a run and of the engine that performs it, in order. -/
def history (note : Engine → Operation → Option α) (e : Engine) : List Operation → List α
  | [] => []
  | o :: rest => (note e o).toList ++ history note (e.step o).2 rest

lemma history_concat (note : Engine → Operation → Option α) (e : Engine)
    (operations : List Operation) (o : Operation) :
    e.history note (operations ++ [o]) =
      e.history note operations ++ (note (e.run operations) o).toList := by
  induction operations generalizing e with
  | nil => exact List.append_nil _
  | cons first operations ih =>
    rw [List.cons_append, history, history, ih, List.append_assoc]
    rfl

/-- What holds at the beginning and is kept by every operation holds after every run, of the engine
and what was noted so far. -/
lemma history_induction {note : Engine → Operation → Option α} {start : Engine}
    (Invariant : Engine → List α → Prop) (initial : Invariant start [])
    (kept : ∀ e noted o, Invariant e noted →
      Invariant (e.step o).2 (noted ++ (note e o).toList))
    (operations : List Operation) :
    Invariant (start.run operations) (start.history note operations) := by
  induction operations using List.reverseRecOn with
  | nil => exact initial
  | append_singleton operations o ih =>
    rw [run_concat, history_concat]
    exact kept _ _ o ih

/-- What was noted was noted at one of the operations. -/
lemma exists_of_mem_history {note : Engine → Operation → Option α} {e : Engine}
    {operations : List Operation} {a : α} (h : a ∈ e.history note operations) :
    ∃ before o after, operations = before ++ o :: after ∧ note (e.run before) o = some a := by
  induction operations generalizing e with
  | nil => cases h
  | cons o operations ih =>
    rw [history, List.mem_append, Option.mem_toList] at h
    rcases h with hnow | hlater
    · exact ⟨[], o, operations, rfl, hnow⟩
    · obtain ⟨before, p, after, rfl, hnoted⟩ := ih hlater
      exact ⟨o :: before, p, after, rfl, hnoted⟩

end CoinQuery.Engine
