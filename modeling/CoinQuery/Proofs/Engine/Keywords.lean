import CoinQuery.Proofs.Coin.Keyword
import CoinQuery.Proofs.Engine.Identity
import CoinQuery.Proofs.Engine.Independence

/-!
# Keywords along a run

Keywords come into the draft when they are typed, and when a coin of the set is loaded to be edited;
coins get them from the draft.  So no blanks ever stand around a keyword (`Engine.KeywordsTrimmed`),
and each can be found by its own text or by any text that is the same but for blanks.

`Engine.draft_step` says what an operation that works on no side makes of the draft.  The main
result is `Engine.run_keeps_keywords`, which also says what removing and toggling do to the keywords
of a side when several have the same text.
-/

namespace CoinQuery

open Text

/-! ## One side -/

namespace SideDescription

/-- No blanks stand around a keyword, and none is empty. -/
def KeywordsTrimmed (s : SideDescription) : Prop := ∀ k ∈ s.keywords, k.IsTrimmed

variable {s : SideDescription} {text : String}

lemma KeywordsTrimmed.addKeyword (h : s.KeywordsTrimmed) (text : String) :
    (s.addKeyword text).2.KeywordsTrimmed := by
  by_cases hblank : trim text = ""
  · simp only [SideDescription.addKeyword, hblank, if_true]
    exact h
  · have hnew : Keyword.IsTrimmed ⟨trim text, false⟩ := ⟨hblank, trim_trim text⟩
    simp only [SideDescription.addKeyword, hblank, if_false]
    exact List.forall_mem_append.mpr ⟨h, List.forall_mem_singleton.mpr hnew⟩

lemma removeKeyword_of_isFirst {before after : List Keyword} {first : Keyword}
    (h : Keyword.IsFirst (trim text) s.keywords before first after) :
    s.removeKeyword text = (some first, { s with keywords := before ++ after }) := by
  rw [removeKeyword, h.removeFirst?]

lemma toggleKeyword_of_isFirst {before after : List Keyword} {first : Keyword}
    (h : Keyword.IsFirst (trim text) s.keywords before first after) :
    s.toggleKeyword text =
      (some (!first.negated), { s with keywords := before ++ first.flip :: after }) := by
  rw [toggleKeyword, h.toggleFirst?]

lemma removeKeyword_of_absent (h : ∀ k ∈ s.keywords, k.text ≠ trim text) :
    s.removeKeyword text = (none, s) := by
  rw [removeKeyword, Keyword.removeFirst?_eq_none h]

lemma toggleKeyword_of_absent (h : ∀ k ∈ s.keywords, k.text ≠ trim text) :
    s.toggleKeyword text = (none, s) := by
  rw [toggleKeyword, Keyword.toggleFirst?_eq_none h]

/-- The keyword that a text means, if there is one, between the others. -/
lemma exists_isFirst_or_absent (s : SideDescription) (text : String) :
    (∃ before first after, Keyword.IsFirst (trim text) s.keywords before first after) ∨
      ∀ k ∈ s.keywords, k.text ≠ trim text := by
  by_cases h : ∃ k ∈ s.keywords, k.text = trim text
  · obtain ⟨k, hk, htext⟩ := h
    exact Or.inl (htext ▸ Keyword.exists_isFirst hk)
  · exact Or.inr fun k hk htext => h ⟨k, hk, htext⟩

/-- What is asked of all keywords is asked of the one that is meant, and of those around it. -/
lemma KeywordsTrimmed.parts {before after : List Keyword} {first : Keyword}
    (h : s.KeywordsTrimmed) (hfirst : Keyword.IsFirst (trim text) s.keywords before first after) :
    (∀ k ∈ before, k.IsTrimmed) ∧ first.IsTrimmed ∧ ∀ k ∈ after, k.IsTrimmed := by
  rw [KeywordsTrimmed, hfirst.split] at h
  obtain ⟨hbefore, hrest⟩ := List.forall_mem_append.mp h
  exact ⟨hbefore, List.forall_mem_cons.mp hrest⟩

lemma KeywordsTrimmed.removeKeyword (h : s.KeywordsTrimmed) (text : String) :
    (s.removeKeyword text).2.KeywordsTrimmed := by
  rcases s.exists_isFirst_or_absent text with ⟨before, first, after, hfirst⟩ | habsent
  · obtain ⟨hbefore, -, hafter⟩ := h.parts hfirst
    rw [removeKeyword_of_isFirst hfirst]
    exact List.forall_mem_append.mpr ⟨hbefore, hafter⟩
  · rw [removeKeyword_of_absent habsent]
    exact h

lemma KeywordsTrimmed.toggleKeyword (h : s.KeywordsTrimmed) (text : String) :
    (s.toggleKeyword text).2.KeywordsTrimmed := by
  rcases s.exists_isFirst_or_absent text with ⟨before, first, after, hfirst⟩ | habsent
  · obtain ⟨hbefore, hmeant, hafter⟩ := h.parts hfirst
    -- the flag is no part of what is asked for
    have hflipped : first.flip.IsTrimmed := ⟨hmeant.text_ne_empty, hmeant.trim_text⟩
    rw [toggleKeyword_of_isFirst hfirst]
    exact List.forall_mem_append.mpr ⟨hbefore, List.forall_mem_cons.mpr ⟨hflipped, hafter⟩⟩
  · rw [toggleKeyword_of_absent habsent]
    exact h

end SideDescription

/-- What an operation on a side does to its keywords, it does by adding, toggling or removing. -/
lemma Operation.keywordsTrimmed_work (o : Operation) {f : Face}
    (h : f.description.KeywordsTrimmed) : (o.work f).2.description.KeywordsTrimmed := by
  cases o with
  | addKeyword side text =>
    simp only [work, Face.describe, Prod.map_snd, id]
    exact h.addKeyword text
  | toggleKeyword side text => exact h.toggleKeyword text
  | removeKeyword side text => exact h.removeKeyword text
  | keyUp side key text now =>
    simp only [work]
    cases (f.input.keyUp key text now).1 <;> exact h
  | applyRecommendations _ _ | pick _ _ _ =>
    simp only [work]
    split <;> exact h
  | _ => exact h

namespace Engine

/-! ## What becomes of the draft -/

/-- An operation on no side leaves the draft, empties it or loads a coin of the set into it. -/
lemma draft_step {o : Operation} (ho : o.side? = none) (e : Engine) :
    (e.step o).2.mint.draft = e.mint.draft ∨ (e.step o).2.mint.draft = .empty ∨
      ∃ coin ∈ e.coins, (e.step o).2.mint.draft = coin.sides := by
  obtain ⟨act, decision, hact⟩ := e.step_eq_act o
  rw [hact]
  cases decision with
  | worked on => cases ho.symm.trans on
  | cleared | added => exact Or.inr (Or.inl rfl)
  | @loaded _ coin found => exact Or.inr (Or.inr ⟨coin, List.mem_of_getElem? found, rfl⟩)
  | answered seq response =>
    obtain ⟨mark, text, hnext⟩ := e.applyCompile_snd seq response
    exact Or.inl (by rw [hnext])
  | refused _ _ | removed _ | revised _ _ _ _ _ _ _ | polled _ | written _ | searched _
  | turned _ => exact Or.inl rfl

/-! ## Runs -/

/-- No blanks stand around the keywords of the draft and of the coins, and none is empty. -/
structure KeywordsTrimmed (e : Engine) : Prop where
  draft : ∀ side, (e.mint.draft.get side).KeywordsTrimmed
  coins : ∀ coin ∈ e.coins, ∀ side, (coin.sides.get side).KeywordsTrimmed

lemma KeywordsTrimmed.step {e : Engine} (h : e.KeywordsTrimmed) (o : Operation) :
    (e.step o).2.KeywordsTrimmed := by
  refine ⟨fun side => ?_, fun coin hcoin side => ?_⟩
  · cases ho : o.side? with
    | some worked =>
      by_cases hside : worked = side
      · subst hside
        have hface := face_step_same ho e
        have hwork := o.keywordsTrimmed_work (f := e.face worked) (h.draft worked)
        rw [← hface] at hwork
        exact hwork
      · have hface := face_step_other ho hside e
        have hsame : (e.step o).2.mint.draft.get side = e.mint.draft.get side :=
          congrArg Face.description hface
        rw [hsame]
        exact h.draft side
    | none =>
      rcases draft_step ho e with hsame | hempty | ⟨coin, hcoin, hloaded⟩
      · rw [hsame]
        exact h.draft side
      · rw [hempty]
        intro k hk
        cases side <;> cases hk
      · rw [hloaded]
        exact h.coins coin hcoin side
  · rcases List.mem_append.mp ((e.coins_step o).subset hcoin) with hold | hstruck
    · exact h.coins coin hold side
    · obtain ⟨-, rfl⟩ := struckBy_eq_some_iff.mp (Option.mem_toList.mp hstruck)
      exact h.draft side

lemma keywordsTrimmed_run (config : Config) (operations : List Operation) :
    ((ofConfig config).run operations).KeywordsTrimmed := by
  have hfresh : (ofConfig config).KeywordsTrimmed := by
    refine ⟨fun side k hk => ?_, fun coin hcoin => ?_⟩
    · cases side <;> cases hk
    · cases hcoin
  exact run_induction (fun e _ => e.KeywordsTrimmed) hfresh (fun _ _ o (_ : True) h => h.step o)
    operations fun _ _ => trivial

/-! ## Keywords of a side -/

/-- The engine with these keywords on a side, and all else as it is. -/
def setKeywords (e : Engine) (side : Side) (keywords : List Keyword) : Engine :=
  { e with
    mint := { e.mint with draft := e.mint.draft.modify side fun s => { s with keywords } } }

variable {e : Engine} {side : Side} {text : String} {before after : List Keyword} {first : Keyword}

lemma get_setKeywords (e : Engine) (side : Side) (keywords : List Keyword) :
    (e.setKeywords side keywords).mint.draft.get side =
      { e.mint.draft.get side with keywords } := Sides.get_set_same _ _ _

lemma setKeywords_setKeywords (e : Engine) (side : Side) (keywords later : List Keyword) :
    (e.setKeywords side keywords).setKeywords side later = e.setKeywords side later := by
  cases side <;> rfl

lemma setKeywords_self (e : Engine) (side : Side) :
    e.setKeywords side (e.mint.draft.get side).keywords = e := by
  cases side <;> rfl

/-- Work on a side that changes its keywords alone. -/
lemma onMint_of_keywords {α : Type} {work : SideDescription → α × SideDescription} {reply : α}
    {keywords : List Keyword}
    (h : work (e.mint.draft.get side) = (reply, { e.mint.draft.get side with keywords })) :
    e.onMint (·.onSide side work) = (reply, e.setKeywords side keywords) := by
  simp only [onMint, Mint.onSide, h]
  rfl

lemma removeKeyword_of_isFirst
    (h : Keyword.IsFirst (trim text) (e.mint.draft.get side).keywords before first after) :
    e.removeKeyword side text = (some first, e.setKeywords side (before ++ after)) :=
  onMint_of_keywords (SideDescription.removeKeyword_of_isFirst h)

lemma toggleKeyword_of_isFirst
    (h : Keyword.IsFirst (trim text) (e.mint.draft.get side).keywords before first after) :
    e.toggleKeyword side text =
      (some (!first.negated), e.setKeywords side (before ++ first.flip :: after)) :=
  onMint_of_keywords (SideDescription.toggleKeyword_of_isFirst h)

/-- Toggling once more finds the same keyword, and flips it back. -/
lemma toggleKeyword_toggleKeyword
    (h : Keyword.IsFirst (trim text) (e.mint.draft.get side).keywords before first after) :
    (e.toggleKeyword side text).2.toggleKeyword side text = (some first.negated, e) := by
  let toggled := e.setKeywords side (before ++ first.flip :: after)
  have hkeywords : (toggled.mint.draft.get side).keywords = before ++ first.flip :: after :=
    congrArg SideDescription.keywords (get_setKeywords e side _)
  have hflipped : Keyword.IsFirst (trim text) (toggled.mint.draft.get side).keywords before
      first.flip after := hkeywords ▸ h.flip
  rw [toggleKeyword_of_isFirst h]
  calc toggled.toggleKeyword side text
      = (some (!first.flip.negated),
          toggled.setKeywords side (before ++ first.flip.flip :: after)) :=
        toggleKeyword_of_isFirst hflipped
    _ = (some first.negated, e) := by
        rw [setKeywords_setKeywords, Keyword.flip_flip, ← h.split, setKeywords_self]
        exact congrArg (some · , e) (Bool.not_not first.negated)

lemma onMint_of_unchanged {α : Type} {work : SideDescription → α × SideDescription} {reply : α}
    (h : work (e.mint.draft.get side) = (reply, e.mint.draft.get side)) :
    e.onMint (·.onSide side work) = (reply, e) := by
  simp only [onMint, Mint.onSide, h, Sides.set_get_same]

lemma removeKeyword_of_absent (h : ∀ k ∈ (e.mint.draft.get side).keywords, k.text ≠ trim text) :
    e.removeKeyword side text = (none, e) :=
  onMint_of_unchanged (SideDescription.removeKeyword_of_absent h)

lemma toggleKeyword_of_absent (h : ∀ k ∈ (e.mint.draft.get side).keywords, k.text ≠ trim text) :
    e.toggleKeyword side text = (none, e) :=
  onMint_of_unchanged (SideDescription.toggleKeyword_of_absent h)

/-- **Keywords stay without blanks around them, and each can be found.**  After every run, each
keyword of the draft and of the coins is trimmed and not empty.  A text that is the text of a
keyword when it is trimmed, as this text itself is, means the first keyword of the side that has it:
removing takes out this one, toggling flips its flag, and nothing else changes; toggling twice
leaves all as it was.  A text that is trimmed to no keyword of the side is refused by both. -/
theorem run_keeps_keywords (config : Config) (operations : List Operation) :
    let e := (ofConfig config).run operations
    ((∀ side, ∀ k ∈ (e.mint.draft.get side).keywords, k.IsTrimmed) ∧
      ∀ coin ∈ e.coins, ∀ side, ∀ k ∈ (coin.sides.get side).keywords, k.IsTrimmed) ∧
    ∀ side text, let keywords := (e.mint.draft.get side).keywords
      (∀ k ∈ keywords, trim text = k.text → ∃ before first after,
        Keyword.IsFirst k.text keywords before first after ∧
        e.removeKeyword side text = (some first, e.setKeywords side (before ++ after)) ∧
        e.toggleKeyword side text =
          (some (!first.negated), e.setKeywords side (before ++ first.flip :: after)) ∧
        (e.toggleKeyword side text).2.toggleKeyword side text = (some first.negated, e)) ∧
      ((∀ k ∈ keywords, trim text ≠ k.text) →
        e.removeKeyword side text = (none, e) ∧ e.toggleKeyword side text = (none, e)) := by
  intro e
  have htrimmed : e.KeywordsTrimmed := keywordsTrimmed_run config operations
  refine ⟨⟨htrimmed.draft, htrimmed.coins⟩, fun side text => ⟨?_, ?_⟩⟩
  · intro k hk htext
    obtain ⟨before, first, after, hfirst⟩ := Keyword.exists_isFirst hk
    have hmeant : Keyword.IsFirst (trim text) (e.mint.draft.get side).keywords before first after :=
      htext ▸ hfirst
    exact ⟨before, first, after, hfirst, removeKeyword_of_isFirst hmeant,
      toggleKeyword_of_isFirst hmeant, toggleKeyword_toggleKeyword hmeant⟩
  · intro habsent
    have hnone : ∀ k ∈ (e.mint.draft.get side).keywords, k.text ≠ trim text :=
      fun k hk htext => habsent k hk htext.symm
    exact ⟨removeKeyword_of_absent hnone, toggleKeyword_of_absent hnone⟩

/-- Two keywords have one text, in a coin that is loaded again: the first of them is meant. -/
theorem run_keeps_keywords_of_one_text :
    let operations : List Operation :=
      [.addKeyword .obverse " owl", .addKeyword .obverse "eagle ", .addKeyword .obverse "owl",
        .toggleKeyword .obverse "eagle", .addCoin, .editCoin 0]
    let e := (ofConfig .default).run operations
    let owl : Keyword := ⟨"owl", false⟩
    let eagle : Keyword := ⟨"eagle", true⟩
    let text := "\towl "
    (e.mint.draft.get .obverse).keywords = [owl, eagle, owl] ∧ trim text = owl.text ∧
      e.removeKeyword .obverse text = (some owl, e.setKeywords .obverse [eagle, owl]) ∧
      (e.toggleKeyword .obverse text).2.toggleKeyword .obverse text = (some false, e) ∧
      (∀ k ∈ (e.mint.draft.get .reverse).keywords, trim text ≠ k.text) ∧
      e.removeKeyword .reverse text = (none, e) := by
  intro operations e owl eagle text
  have hkeywords : (e.mint.draft.get .obverse).keywords = [owl, eagle, owl] := rfl
  have htext : trim "\towl " = "owl" := by decide
  have hreverse : ∀ k ∈ (e.mint.draft.get .reverse).keywords, trim text ≠ k.text :=
    fun k hk => by cases hk
  obtain ⟨-, hmeans⟩ := run_keeps_keywords .default operations
  obtain ⟨hfound, -⟩ := hmeans .obverse text
  obtain ⟨before, first, after, hfirst, hremove, -, htwice⟩ :=
    hfound owl (hkeywords ▸ List.mem_cons_self) htext
  have hsplit : [owl, eagle, owl] = before ++ first :: after := hkeywords.symm.trans hfirst.split
  cases before with
  | nil =>
    obtain ⟨rfl, rfl⟩ := List.cons.inj hsplit
    obtain ⟨hrefused, -⟩ := (hmeans .reverse text).2 hreverse
    exact ⟨hkeywords, htext, hremove, htwice, hreverse, hrefused⟩
  | cons k before =>
    obtain ⟨rfl, -⟩ := List.cons.inj hsplit
    exact absurd rfl (hfirst.others owl List.mem_cons_self)

end Engine

end CoinQuery
