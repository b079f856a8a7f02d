import CoinQuery.Proofs.Engine.Face

/-!
# The two sides of the draft

What is entered for one side of a coin has nothing to do with what is entered for the other: an
operation on one side is work on the face of this side (`Engine.step_eq_work`).

So a run of such operations leaves on each side what the operations on this side alone leave there
(`Engine.run_eq_setFaces`), with the replies they get alone.  The main result
`Engine.sides_independent` says that two operations on different sides commute, and that all ways of
interleaving the work on both sides come to the same.
-/

namespace CoinQuery

variable {side other : Side} {o : Operation}

/-! ## Runs -/

/-- The operations on one side, in order. -/
def Operation.onSide (side : Side) (operations : List Operation) : List Operation :=
  operations.filter (·.side? = some side)

/-- The face that a run of work makes of a face. -/
def Face.run (f : Face) (operations : List Operation) : Face :=
  operations.foldl (fun f o => (o.work f).2) f

/-- The replies of a run of work on a face. -/
def Face.replies (f : Face) : List Operation → List Reply
  | [] => []
  | o :: rest => (o.work f).1 :: (o.work f).2.replies rest

lemma Operation.onSide_cons_same (ho : o.side? = some side) (operations : List Operation) :
    onSide side (o :: operations) = o :: onSide side operations := by
  simp [onSide, ho]

lemma Operation.onSide_cons_other (ho : o.side? = some side) (h : side ≠ other)
    (operations : List Operation) :
    onSide other (o :: operations) = onSide other operations := by
  simp [onSide, ho, h]

namespace Engine

open Operation (onSide)

/-- The replies that the operations on one side get in a run. -/
def repliesOn (e : Engine) (side : Side) (operations : List Operation) : List Reply :=
  ((operations.zip (e.replies operations)).filter (·.1.side? = some side)).map Prod.snd

lemma face_run_onSide_cons (ho : o.side? = some side) (face : Side) (operations : List Operation)
    (e : Engine) :
    ((e.step o).2.face face).run (onSide face operations) =
      (e.face face).run (onSide face (o :: operations)) := by
  by_cases hface : side = face
  · subst hface
    rw [Operation.onSide_cons_same ho, face_step_same ho]
    rfl
  · rw [Operation.onSide_cons_other ho hface, face_step_other ho hface]

/-- What a run on the two sides leaves is, on each side, what the work on this side alone leaves. -/
lemma run_eq_setFaces {operations : List Operation} (h : ∀ o ∈ operations, o.side?.isSome)
    (e : Engine) :
    e.run operations = e.setFaces fun side => (e.face side).run (onSide side operations) := by
  induction operations generalizing e with
  | nil => exact (setFaces_face e).symm
  | cons o rest ih =>
    obtain ⟨side, ho⟩ := Option.isSome_iff_exists.mp (h o List.mem_cons_self)
    have hrest : ∀ p ∈ rest, p.side?.isSome := fun p hp => h p (List.mem_cons_of_mem o hp)
    calc (e.step o).2.run rest
      _ = (e.step o).2.setFaces fun face => ((e.step o).2.face face).run (onSide face rest) :=
        ih hrest _
      _ = (e.step o).2.setFaces fun face => (e.face face).run (onSide face (o :: rest)) := by
        simp only [face_run_onSide_cons ho]
      _ = e.setFaces fun face => (e.face face).run (onSide face (o :: rest)) := by
        rw [step_eq_work ho, setFaces_setFace]

/-- The operations on one side are answered as if there were no others. -/
lemma repliesOn_eq_face_replies {operations : List Operation}
    (h : ∀ o ∈ operations, o.side?.isSome) (e : Engine) (face : Side) :
    e.repliesOn face operations = (e.face face).replies (onSide face operations) := by
  induction operations generalizing e with
  | nil => rfl
  | cons o rest ih =>
    obtain ⟨side, ho⟩ := Option.isSome_iff_exists.mp (h o List.mem_cons_self)
    have hrest : (e.step o).2.repliesOn face rest =
        ((e.step o).2.face face).replies (onSide face rest) :=
      ih (fun p hp => h p (List.mem_cons_of_mem o hp)) _
    by_cases hface : side = face
    · subst hface
      have hcons : e.repliesOn side (o :: rest) =
          (e.step o).1 :: (e.step o).2.repliesOn side rest := by
        simp [repliesOn, replies, ho]
      rw [hcons, hrest, face_step_same ho, Operation.onSide_cons_same ho, step_eq_work ho]
      rfl
    · have hcons : e.repliesOn face (o :: rest) = (e.step o).2.repliesOn face rest := by
        simp [repliesOn, replies, ho, hface]
      rw [hcons, hrest, face_step_other ho hface, Operation.onSide_cons_other ho hface]

/-! ## Independence -/

/-- **The sides of the draft are independent.**  Of two operations on different sides, each gets the
reply it would get without the other before it, and their order makes no difference to the engine.
Two runs on the sides that have the same operations for each side, in the same order on each, are
interleavings of the same work: they end in the same engine, with the same replies on each side. -/
theorem sides_independent (e : Engine) :
    (∀ a b : Operation, ∀ side other : Side,
      a.side? = some side → b.side? = some other → side ≠ other →
        ((e.step b).2.step a).1 = (e.step a).1 ∧ ((e.step a).2.step b).1 = (e.step b).1 ∧
          ((e.step a).2.step b).2 = ((e.step b).2.step a).2) ∧
      ∀ first second : List Operation,
        (∀ o ∈ first, o.side?.isSome) → (∀ o ∈ second, o.side?.isSome) →
        (∀ side, onSide side first = onSide side second) →
          e.run first = e.run second ∧
            ∀ side, e.repliesOn side first = e.repliesOn side second := by
  refine ⟨?_, ?_⟩
  · intro a b side other ha hb hsides
    have hafter : (e.step a).2.face other = e.face other := face_step_other ha hsides e
    have hbefore : (e.step b).2.face side = e.face side := face_step_other hb hsides.symm e
    refine ⟨?_, ?_, ?_⟩
    · rw [step_eq_work ha, hbefore, step_eq_work ha]
    · rw [step_eq_work hb, hafter, step_eq_work hb]
    · rw [step_eq_work hb, hafter, step_eq_work ha (e.step b).2, hbefore, step_eq_work ha,
        step_eq_work hb]
      exact setFace_comm e hsides _ _
  · intro first second hfirst hsecond hsame
    refine ⟨?_, fun side => ?_⟩
    · rw [run_eq_setFaces hfirst, run_eq_setFaces hsecond]
      simp only [hsame]
    · rw [repliesOn_eq_face_replies hfirst, repliesOn_eq_face_replies hsecond, hsame]

/-- A backspace on the reverse takes the descriptor there away, wherever it falls among the keywords
and keys of the obverse, and even right before a pick on the obverse. -/
theorem sides_independent_backspace :
    let plant : Descriptor := ⟨.plant, ⟨.empty⟩⟩
    let first : List Operation :=
      [.addDescriptor .reverse plant, .keyUp .reverse .backspace "" 5, .addKeyword .obverse " owl ",
        .keyUp .obverse (.char 'a') "ath" 7, .toggleKeyword .obverse "owl"]
    let second : List Operation :=
      [.addKeyword .obverse " owl ", .addDescriptor .reverse plant,
        .keyUp .obverse (.char 'a') "ath" 7, .keyUp .reverse .backspace "" 5,
        .toggleKeyword .obverse "owl"]
    let e := (ofConfig .default).run second
    (ofConfig .default).run first = e ∧ e.mint.draft = ⟨⟨[], [⟨"owl", true⟩]⟩, .empty⟩ ∧
      ((e.step (.keyUp .reverse .backspace "" 8)).2.step (.pick .obverse .plant 0)).2 =
        ((e.step (.pick .obverse .plant 0)).2.step (.keyUp .reverse .backspace "" 8)).2 := by
  intro plant first second e
  obtain ⟨-, hruns⟩ := sides_independent (ofConfig .default)
  obtain ⟨hsame, -⟩ := hruns first second (by decide) (by decide) fun side => by cases side <;> rfl
  obtain ⟨hpairs, -⟩ := sides_independent e
  obtain ⟨-, -, hcommute⟩ := hpairs (.keyUp .reverse .backspace "" 8) (.pick .obverse .plant 0)
    .reverse .obverse rfl rfl (by decide)
  exact ⟨hsame, rfl, hcommute⟩

end Engine

end CoinQuery
