import CoinQuery.Proofs.Engine.History
import CoinQuery.Proofs.Engine.Coherence

/-!
# Answers to compile requests

Answers may come late, twice, out of order, or under a number that was never given out, and each may
be a success or a failure.  Whatever comes, an answer counts only if it is newer than every answer
that counted before.

`Engine.accepted` collects the numbers of the answers that counted in a run, and `Engine.written`
the texts that became the query.  The invariant `Engine.Acknowledged` ties the one mark that the
engine keeps, the number of the last answer that counted, to the history of all these numbers.  The
main result `Engine.run_answers` says what a run makes of any answer that may come next.
-/

namespace CoinQuery

/-- The numbers of the requests among the replies, in order. -/
def Reply.issued (replies : List Reply) : List Nat :=
  (replies.filterMap request?).map CompileRequest.seq

namespace Engine

/-! ## Numbers given out -/

/-- The requests of a run are numbered from one, without gaps. -/
lemma issued_replies (config : Config) (operations : List Operation) :
    Reply.issued ((ofConfig config).replies operations) =
      List.range' 1 ((ofConfig config).run operations).sequencer.issued := by
  refine run_induction (fun e replies => Reply.issued replies = List.range' 1 e.sequencer.issued)
    rfl ?_ operations fun _ _ => trivial
  intro e replies o (_ : True) ih
  have heffect := e.step_effect o
  generalize (e.step o).1 = reply, (e.step o).2 = next at heffect ⊢
  rw [Reply.issued] at ih
  rw [Reply.issued, List.filterMap_append, List.map_append, ih]
  cases heffect with
  | aside quiet _ same =>
    have hissued : next.sequencer.issued = e.sequencer.issued := congrArg Compiled.issued same
    simp [quiet, hissued]
  | removal _ => exact List.append_nil _
  | synced edited edit =>
    have hseq : edited.sync.1.seq = 1 + e.sequencer.issued := by
      rw [← edit.sequencer]
      exact Nat.add_comm _ 1
    have hissued : edited.sync.2.sequencer.issued = e.sequencer.issued + 1 := by
      rw [← edit.sequencer]
      rfl
    rw [hissued, List.range'_1_concat]
    simp [Reply.request?, hseq]

lemma issued_le_step (e : Engine) (o : Operation) :
    e.sequencer.issued ≤ (e.step o).2.sequencer.issued := by
  have heffect := e.step_effect o
  generalize (e.step o).1 = reply, (e.step o).2 = next at heffect ⊢
  cases heffect with
  | aside _ _ same => exact (congrArg Compiled.issued same).ge
  | removal _ => exact Nat.le_refl _
  | synced edited edit =>
    rw [← edit.sequencer]
    exact Nat.le_succ _

/-! ## What is noted of answers -/

/-- The number of an answer that the sequencer accepts. -/
def acceptedBy (e : Engine) : Operation → Option Nat
  | .applyCompile seq _ => if (e.sequencer.accept seq).1 then some seq else none
  | _ => none

lemma accept_of_acceptedBy {e : Engine} {o : Operation} {seq : Nat}
    (h : e.acceptedBy o = some seq) : (e.sequencer.accept seq).1 = true := by
  cases o with
  | applyCompile n response =>
    obtain ⟨haccepted, hseq⟩ := Option.ite_none_right_eq_some.mp h
    exact Option.some.inj hseq ▸ haccepted
  | _ => cases h

/-- The numbers of the answers that the sequencer accepts in a run, in order. -/
def accepted (e : Engine) (operations : List Operation) : List Nat :=
  e.history acceptedBy operations

/-- The text that an operation makes the query: one that was written, or the result of an answer for
which true is returned. -/
def writtenBy (e : Engine) : Operation → Option String
  | .setQueryText text => some text
  | .applyCompile seq response =>
    if (e.applyCompile seq response).1 then response.result else none
  | _ => none

/-- The texts that become the query in a run, in order. -/
def written (e : Engine) (operations : List Operation) : List String :=
  e.history writtenBy operations

/-- The mark is the number accepted last. -/
lemma answered_step (e : Engine) (o : Operation) :
    (e.step o).2.sequencer.answered = (e.acceptedBy o).getD e.sequencer.answered := by
  cases o with
  | applyCompile seq response =>
    change (e.applyCompile seq response).2.sequencer.answered = _
    rw [acceptedBy]
    rcases e.applyCompile_cases seq response with ⟨hrefused, hanswer⟩ | ⟨haccepted, -, hanswer⟩ |
      ⟨haccepted, -, text, -, hanswer⟩
    · rw [hanswer, if_neg hrefused]
      rfl
    · rw [hanswer, if_pos haccepted]
      rfl
    · rw [hanswer, if_pos haccepted]
      rfl
  | _ => exact (e.step_frame _).answered fun seq response h => by cases h

/-- The query is the text that came in last. -/
lemma queryText_step (e : Engine) (o : Operation) :
    (e.step o).2.queryText = (e.writtenBy o).getD e.queryText := by
  cases o with
  | setQueryText text => rfl
  | applyCompile seq response =>
    change (e.applyCompile seq response).2.queryText = _
    rw [writtenBy]
    rcases e.applyCompile_cases seq response with ⟨-, hanswer⟩ | ⟨-, -, hanswer⟩ |
      ⟨-, -, text, htext, hanswer⟩
    · rw [hanswer]
      rfl
    · rw [hanswer]
      rfl
    · rw [hanswer, htext]
      rfl
  | _ =>
    exact (e.step_frame _).queryText (fun seq response h => by cases h) fun text h => by cases h

/-! ## The mark and the history -/

/-- What the mark tells of the numbers accepted so far: they ascend up to it, and it is one of them
unless it is zero.  It never passes the number of the newest request. -/
structure Acknowledged (e : Engine) (accepted : List Nat) : Prop where
  ascending : accepted.Pairwise (· < ·)
  below : ∀ n ∈ accepted, 0 < n ∧ n ≤ e.sequencer.answered
  mark : e.sequencer.answered = 0 ∨ e.sequencer.answered ∈ accepted
  known : e.sequencer.answered ≤ e.sequencer.issued

lemma Acknowledged.accept_fst_iff {e : Engine} {accepted : List Nat} (h : e.Acknowledged accepted)
    {seq : Nat} : (e.sequencer.accept seq).1 = true ↔
      (0 < seq ∧ seq ≤ e.sequencer.issued) ∧ ∀ n ∈ accepted, n < seq := by
  rw [CompileSequencer.accept_fst_iff]
  constructor
  · rintro ⟨hnew, hissued⟩
    exact ⟨⟨by omega, hissued⟩, fun n hn => Nat.lt_of_le_of_lt (h.below n hn).2 hnew⟩
  · rintro ⟨⟨hpos, hissued⟩, habove⟩
    refine ⟨?_, hissued⟩
    rcases h.mark with hzero | hmem
    · rwa [hzero]
    · exact habove _ hmem

lemma Acknowledged.step {e : Engine} {accepted : List Nat} (h : e.Acknowledged accepted)
    (o : Operation) : (e.step o).2.Acknowledged (accepted ++ (e.acceptedBy o).toList) := by
  have hanswered := e.answered_step o
  have hissued := e.issued_le_step o
  cases hby : e.acceptedBy o with
  | none =>
    rw [hby, Option.getD_none] at hanswered
    simp only [Option.toList_none, List.append_nil]
    exact ⟨h.ascending, hanswered ▸ h.below, hanswered ▸ h.mark, hanswered ▸ h.known.trans hissued⟩
  | some seq =>
    rw [hby, Option.getD_some] at hanswered
    obtain ⟨hnew, hknown⟩ := CompileSequencer.accept_fst_iff.mp (accept_of_acceptedBy hby)
    have hbelow : ∀ n ∈ accepted, n < seq := fun n hn =>
      Nat.lt_of_le_of_lt (h.below n hn).2 hnew
    constructor
    case ascending =>
      refine List.pairwise_append.mpr ⟨h.ascending, List.pairwise_singleton _ _, ?_⟩
      intro n hn m hm
      obtain rfl := List.mem_singleton.mp hm
      exact hbelow n hn
    case below =>
      rw [hanswered]
      intro n hn
      rcases List.mem_append.mp hn with hold | hlast
      · exact ⟨(h.below n hold).1, (hbelow n hold).le⟩
      · obtain rfl := List.mem_singleton.mp hlast
        exact ⟨Nat.zero_lt_of_lt hnew, Nat.le_refl _⟩
    case mark => exact Or.inr (by simp [hanswered])
    case known => exact hanswered ▸ hknown.trans hissued

/-- Nothing is pending when the mark stands at the newest request. -/
lemma Acknowledged.pending_iff {e : Engine} {accepted issued : List Nat}
    (h : e.Acknowledged accepted) (hissued : issued = List.range' 1 e.sequencer.issued) :
    e.compilePending = false ↔
      issued = [] ∨ ∃ newest, issued.getLast? = some newest ∧ newest ∈ accepted := by
  have hmark : e.compilePending = false ↔ e.sequencer.issued = e.sequencer.answered := by
    rw [compilePending, CompileSequencer.isPending, decide_eq_false_iff_not, Nat.not_lt]
    exact ⟨fun hle => Nat.le_antisymm hle h.known, Nat.le_of_eq⟩
  rw [hmark, hissued]
  cases hcount : e.sequencer.issued with
  | zero => exact iff_of_true (Nat.le_zero.mp (hcount ▸ h.known)).symm (Or.inl rfl)
  | succ count =>
    have hlast : (List.range' 1 (count + 1)).getLast? = some (count + 1) := by
      rw [List.range'_1_concat, List.getLast?_concat, Nat.add_comm]
    have hnonempty : List.range' 1 (count + 1) ≠ [] := by simp
    simp only [hlast, hnonempty, false_or, Option.some.injEq, exists_eq_left']
    constructor
    · intro hmarked
      rcases h.mark with hzero | hmem
      · omega
      · rwa [hmarked]
    · intro hmem
      exact Nat.le_antisymm (h.below _ hmem).2 (hcount ▸ h.known)

lemma acknowledged_run (config : Config) (operations : List Operation) :
    ((ofConfig config).run operations).Acknowledged ((ofConfig config).accepted operations) :=
  history_induction Acknowledged ⟨List.Pairwise.nil, by simp, Or.inl rfl, Nat.le_refl _⟩
    (fun _ _ o h => h.step o) operations

lemma queryText_run (config : Config) (operations : List Operation) :
    ((ofConfig config).run operations).queryText =
      ((ofConfig config).written operations).getLast?.getD "" := by
  refine history_induction (fun e texts => e.queryText = texts.getLast?.getD "") rfl ?_ operations
  intro e texts o ih
  rw [queryText_step, ih]
  cases e.writtenBy o <;> simp

/-- The mark never goes back. -/
lemma answered_le_run (e : Engine) (operations : List Operation) :
    e.sequencer.answered ≤ (e.run operations).sequencer.answered := by
  refine run_induction (fun f _ => e.sequencer.answered ≤ f.sequencer.answered) (Nat.le_refl _) ?_
    operations fun _ _ => trivial
  intro f replies o (_ : True) ih
  rw [answered_step]
  refine ih.trans ?_
  cases hby : f.acceptedBy o with
  | none => exact Nat.le_refl _
  | some seq => exact (CompileSequencer.accept_fst_iff.mp (accept_of_acceptedBy hby)).1.le

/-- **Answers count in the order of their requests**, whatever the order in which they come.  In a
run of a fresh engine the numbers accepted ascend, and all of them were given out before.  The next
answer returns true exactly when its number was given out, is above all numbers accepted, and it is
a success that carries a result.  The query is the text that was written or brought in last.  A
failure with a fresh number leaves the query, and from then on every answer that is not newer
changes nothing.  Nothing is pending exactly when nothing was requested or the newest request was
answered. -/
theorem run_answers (config : Config) (operations : List Operation) :
    let start := ofConfig config
    let e := start.run operations
    let issued := Reply.issued (start.replies operations)
    let accepted := start.accepted operations
    accepted.Pairwise (· < ·) ∧
    (∀ n ∈ accepted, n ∈ issued) ∧
    (∀ seq response,
      ((e.sequencer.accept seq).1 = true ↔ seq ∈ issued ∧ ∀ n ∈ accepted, n < seq) ∧
      ((e.applyCompile seq response).1 = true ↔
        (seq ∈ issued ∧ ∀ n ∈ accepted, n < seq) ∧ response.IsSuccess)) ∧
    e.queryText = (start.written operations).getLast?.getD "" ∧
    (∀ seq response, seq ∈ issued → (∀ n ∈ accepted, n < seq) → ¬ response.IsSuccess →
      e.applyCompile seq response =
        (false, { e with sequencer := { e.sequencer with answered := seq } }) ∧
      ∀ later older answer, older ≤ seq →
        let f := (e.applyCompile seq response).2.run later
        f.applyCompile older answer = (false, f)) ∧
    (e.compilePending = false ↔
      issued = [] ∨ ∃ newest, issued.getLast? = some newest ∧ newest ∈ accepted) := by
  intro start e issued accepted
  have h : e.Acknowledged accepted := acknowledged_run config operations
  have hissued : issued = List.range' 1 e.sequencer.issued := issued_replies config operations
  have hmem : ∀ n, n ∈ issued ↔ 0 < n ∧ n ≤ e.sequencer.issued := by
    intro n
    rw [hissued, List.mem_range'_1]
    omega
  have hfresh : ∀ seq, (e.sequencer.accept seq).1 = true ↔ seq ∈ issued ∧ ∀ n ∈ accepted, n < seq :=
    fun seq => by rw [hmem, h.accept_fst_iff]
  refine ⟨h.ascending, ?_, ?_, queryText_run config operations, ?_, ?_⟩
  · intro n hn
    obtain ⟨hpos, hle⟩ := h.below n hn
    exact (hmem n).mpr ⟨hpos, hle.trans h.known⟩
  · intro seq response
    exact ⟨hfresh seq, by rw [applyCompile_fst_iff, hfresh]⟩
  · intro seq response hseq habove hfailure
    have hanswer := applyCompile_of_failure ((hfresh seq).mpr ⟨hseq, habove⟩) hfailure
    refine ⟨hanswer, ?_⟩
    intro later older answer holder f
    have hmark : seq ≤ f.sequencer.answered := by
      calc seq = (e.applyCompile seq response).2.sequencer.answered := by rw [hanswer]
        _ ≤ f.sequencer.answered := answered_le_run _ later
    refine applyCompile_of_not_accepted ?_ answer
    rw [CompileSequencer.accept_fst_iff]
    omega
  · exact h.pending_iff hissued

/-- A failure under the newest number keeps the query, and a success that comes after it under an
older one is dropped. -/
theorem run_answers_after_failure :
    let operations : List Operation :=
      [.addCoin, .addCoin, .addCoin, .applyCompile 1 (.ok "first"), .applyCompile 7 (.ok "forged")]
    let e := (ofConfig .default).run operations
    let f := (e.applyCompile 3 (.failed "syntax error")).2
    f.queryText = "first" ∧ f.applyCompile 2 (.ok "second") = (false, f) := by
  intro operations e f
  obtain ⟨-, -, -, htext, hfailure, -⟩ := run_answers .default operations
  obtain ⟨hanswer, hblocked⟩ := hfailure 3 (.failed "syntax error") (by decide) (by decide)
    fun h => Bool.false_ne_true h.1
  refine ⟨?_, hblocked [] 2 (.ok "second") (by decide)⟩
  calc f.queryText = e.queryText := congrArg (fun a => a.2.queryText) hanswer
    _ = "first" := htext

end Engine

end CoinQuery
