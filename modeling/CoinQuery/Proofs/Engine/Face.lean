import CoinQuery.Engine.Operation
import Mathlib.Tactic.Lemma

/-!
# The faces of the draft

For each side of the next coin the engine keeps a description, an input field and recommendations: a
face of the draft (`Engine.face`).  Eight operations work on one side (`Operation.side?`), and what
they do is work on the face of that side (`Operation.work`), which reads nothing else of the engine
and changes nothing else (`Engine.step_eq_work`).  So what is to be shown of them is shown of faces.
-/

namespace CoinQuery

variable {side other : Side} {o : Operation}

/-! ## Faces -/

/-- What is kept for one side of the draft. -/
structure Face where
  description : SideDescription
  input : DescriptionInput
  recommendations : Recommendations

/-- Work on the description alone. -/
def Face.describe {α : Type} (f : Face) (work : SideDescription → α × SideDescription) : α × Face :=
  ((work f.description).1, { f with description := (work f.description).2 })

namespace Engine

def face (e : Engine) (side : Side) : Face :=
  ⟨e.mint.draft.get side, e.inputs.get side, e.recommendations.get side⟩

def setFace (e : Engine) (side : Side) (f : Face) : Engine :=
  { e with
    mint := { e.mint with draft := e.mint.draft.set side f.description }
    inputs := e.inputs.set side f.input
    recommendations := e.recommendations.set side f.recommendations }

@[simp] lemma face_setFace_same (e : Engine) (side : Side) (f : Face) :
    (e.setFace side f).face side = f := by
  simp [face, setFace]

lemma face_setFace_other (e : Engine) (h : side ≠ other) (f : Face) :
    (e.setFace side f).face other = e.face other := by
  simp [face, setFace, Sides.get_set_other _ h]

@[simp] lemma setFace_face (e : Engine) (side : Side) : e.setFace side (e.face side) = e := by
  simp [face, setFace, Sides.set_get_same]

lemma setFace_comm (e : Engine) (h : side ≠ other) (f g : Face) :
    (e.setFace side f).setFace other g = (e.setFace other g).setFace side f := by
  simp [setFace, Sides.set_comm _ h]

/-- The engine with these faces on its two sides. -/
def setFaces (e : Engine) (faces : Side → Face) : Engine :=
  (e.setFace .obverse (faces .obverse)).setFace .reverse (faces .reverse)

lemma setFaces_face (e : Engine) : e.setFaces e.face = e := rfl

lemma setFaces_setFace (e : Engine) (side : Side) (f : Face) (faces : Side → Face) :
    (e.setFace side f).setFaces faces = e.setFaces faces := by
  cases side <;> rfl

lemma onMint_onSide {α : Type} (e : Engine) (side : Side)
    (work : SideDescription → α × SideDescription) :
    e.onMint (·.onSide side work) =
      (((e.face side).describe work).1, e.setFace side ((e.face side).describe work).2) := by
  simp [onMint, Mint.onSide, setFace, face, Face.describe, Sides.set_get_same]

end Engine

/-! ## Work on a face -/

/-- The side that an operation works on, if it works on one of them. -/
def Operation.side? : Operation → Option Side
  | .addDescriptor side _ | .removeLastDescriptor side | .addKeyword side _
  | .toggleKeyword side _ | .removeKeyword side _ | .keyUp side _ _ _
  | .applyRecommendations side _ | .pick side _ _ => some side
  | _ => none

/-- What an operation replies and makes of the face of its side. -/
def Operation.work : Operation → Face → Reply × Face
  | .addDescriptor _ d, f => f.describe fun s => (.done, s.addDescriptor d)
  | .removeLastDescriptor _, f => (f.describe (·.removeLastDescriptor)).map (.flag ·.isSome) id
  | .addKeyword _ text, f => (f.describe (·.addKeyword text)).map .flag id
  | .toggleKeyword _ text, f => (f.describe (·.toggleKeyword text)).map .negation id
  | .removeKeyword _ text, f => (f.describe (·.removeKeyword text)).map .keyword id
  | .keyUp _ key text now, f =>
    let (action, input) := f.input.keyUp key text now
    (.action action, match action with
      | .scheduled => { f with input }
      | .cleared => { f with input, recommendations := .empty }
      | .removeLastDescriptor =>
        ({ f with input, recommendations := .empty : Face }.describe (·.removeLastDescriptor)).2)
  | .applyRecommendations _ response, f =>
    match response.outcome RecommendationRequest.action with
    | .ok result => (.flag true, { f with recommendations := .ofResult result })
    | .error _ => (.flag false, f)
  | .pick _ category index, f =>
    match f.recommendations.item? category index with
    | some item =>
      (.flag true, ⟨f.description.addDescriptor ⟨category, item⟩, f.input.reset, .empty⟩)
    | none => (.flag false, f)
  | _, f => (.done, f)

namespace Engine

/-- **An operation on one side is work on the face of this side.** -/
theorem step_eq_work (ho : o.side? = some side) (e : Engine) :
    e.step o = ((o.work (e.face side)).1, e.setFace side (o.work (e.face side)).2) := by
  cases o with
  -- work on the description alone
  | addDescriptor _ d =>
    cases ho
    cases side <;> rfl
  | removeLastDescriptor _ =>
    cases ho
    simp [step, removeLastDescriptor, Mint.removeLastDescriptor, onMint_onSide, Operation.work]
  | addKeyword _ text =>
    cases ho
    simp [step, addKeyword, Mint.addKeyword, onMint_onSide, Operation.work]
  | toggleKeyword _ text =>
    cases ho
    simp [step, toggleKeyword, Mint.toggleKeyword, onMint_onSide, Operation.work]
  | removeKeyword _ text =>
    cases ho
    simp [step, removeKeyword, Mint.removeKeyword, onMint_onSide, Operation.work]
  -- work that the input field or the recommendations decide on
  | keyUp _ key text now =>
    cases ho
    have hinput : (e.face side).input = e.inputs.get side := rfl
    simp only [step, keyUp, Operation.work, hinput]
    generalize (e.inputs.get side).keyUp key text now = pressed
    obtain ⟨action, input⟩ := pressed
    cases action <;> cases side <;> rfl
  | applyRecommendations _ response =>
    cases ho
    cases houtcome : response.outcome RecommendationRequest.action with
    | ok result =>
      simp only [step, applyRecommendations, Operation.work, houtcome]
      cases side <;> rfl
    | error reason =>
      simp [step, applyRecommendations, Operation.work, houtcome]
  | pick _ category index =>
    cases ho
    have hlisted : (e.face side).recommendations = e.recommendations.get side := rfl
    cases hitem : (e.recommendations.get side).item? category index with
    | some item =>
      simp only [step, pick, Operation.work, hlisted, hitem]
      cases side <;> rfl
    | none =>
      simp [step, pick, Operation.work, hlisted, hitem]
  | _ => cases ho

lemma face_step_same (ho : o.side? = some side) (e : Engine) :
    (e.step o).2.face side = (o.work (e.face side)).2 := by
  rw [step_eq_work ho, face_setFace_same]

lemma face_step_other (ho : o.side? = some side) (h : side ≠ other) (e : Engine) :
    (e.step o).2.face other = e.face other := by
  rw [step_eq_work ho, face_setFace_other e h]

end Engine

end CoinQuery
