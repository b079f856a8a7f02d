import CoinQuery.Input
import Mathlib.Data.List.DropRight

/-!
# Lookups over time

A description field hears of keys, of polls and of resets, in any order and at any times; the times
of polls may even go backwards.  What it answers depends on two things in what happened before: on
the text that the last key reported, which a reset makes it forget, and on the last event that was
no poll.  If that was a key that scheduled a lookup, the lookup waits until the first poll that does
not come before its time.  If it was anything else, nothing waits.

`DescriptionInput.exists_last_input` cuts a history at that event.  What the event leaves waiting is
said by the lemmas on keys, and what the polls after it leave of that by
`DescriptionInput.pending_run_polls`.  The main result `DescriptionInput.run_looks_up` tells each
answer from the history, without the state that the field keeps.
-/

namespace CoinQuery

/-- The letters of ASCII and the backspace call for a lookup. -/
lemma Key.callsForLookup_iff (key : Key) : key.callsForLookup = true ↔
    key = .backspace ∨ ∃ c, key = .char c ∧ (('A' ≤ c ∧ c ≤ 'Z') ∨ ('a' ≤ c ∧ c ≤ 'z')) := by
  cases key with
  | char c =>
    have hupper : c.isUpper = true ↔ 'A' ≤ c ∧ c ≤ 'Z' := decide_eq_true_iff
    have hlower : c.isLower = true ↔ 'a' ≤ c ∧ c ≤ 'z' :=
      Bool.and_eq_true_iff.trans (and_congr decide_eq_true_iff decide_eq_true_iff)
    have hletter : c.isAlpha = true ↔ ('A' ≤ c ∧ c ≤ 'Z') ∨ ('a' ≤ c ∧ c ≤ 'z') :=
      Bool.or_eq_true_iff.trans (or_congr hupper hlower)
    simp [callsForLookup, hletter]
  | backspace => simp [callsForLookup]
  | other => simp [callsForLookup]

/-! ## Polling -/

namespace Debouncer

variable {d : Debouncer} {now : Nat} {query : String}

lemma poll_fst_eq_some_iff : (d.poll now).1 = some query ↔
    ∃ deadline, d.pending = some ⟨query, deadline⟩ ∧ deadline ≤ now := by
  rw [poll]
  cases hpending : d.pending with
  | none => simp
  | some p =>
    by_cases hdue : p.deadline ≤ now
    · simp only [hdue, if_true, Option.some.injEq]
      exact ⟨fun h => ⟨p.deadline, h ▸ rfl, hdue⟩, fun ⟨_, h, _⟩ => h ▸ rfl⟩
    · simp only [hdue, if_false, Option.some.injEq, reduceCtorEq, false_iff]
      rintro ⟨deadline, rfl, hle⟩
      exact hdue hle

/-- A poll that gives nothing changes nothing. -/
lemma poll_snd_of_none (h : (d.poll now).1 = none) : (d.poll now).2 = d := by
  rw [poll] at h ⊢
  split
  · split
    · simp_all
    · rfl
  · rfl

/-- A poll that gives a query takes it. -/
lemma poll_snd_of_some (h : (d.poll now).1 = some query) : (d.poll now).2 = d.cancel := by
  obtain ⟨deadline, hpending, hdue⟩ := poll_fst_eq_some_iff.mp h
  simp [poll, hpending, hdue]

end Debouncer

namespace DescriptionInput

/-! ## Histories -/

/-- What a description field hears of. -/
inductive Event
  | keyUp (key : Key) (text : String) (now : Nat)
  | poll (now : Nat)
  | reset

namespace Event

def isPoll : Event → Bool
  | poll _ => true
  | _ => false

def isReset : Event → Bool
  | reset => true
  | _ => false

/-- The text that a key reports. -/
def text? : Event → Option String
  | keyUp _ text _ => some text
  | _ => none

/-- The text that the last key since the last reset reported. -/
def lastText? (events : List Event) : Option String :=
  ((events.rtakeWhile (!·.isReset)).filterMap text?).getLast?

lemma lastText?_concat_keyUp (events : List Event) (key : Key) (text : String) (now : Nat) :
    lastText? (events ++ [keyUp key text now]) = some text := by
  rw [lastText?, List.rtakeWhile_concat_pos _ _ _ rfl, List.filterMap_append]
  exact List.getLast?_concat

lemma lastText?_concat_poll (events : List Event) (now : Nat) :
    lastText? (events ++ [poll now]) = lastText? events := by
  rw [lastText?, List.rtakeWhile_concat_pos _ _ _ rfl, List.filterMap_append]
  exact congrArg List.getLast? (List.append_nil _)

lemma lastText?_concat_reset (events : List Event) : lastText? (events ++ [reset]) = none := by
  rw [lastText?, List.rtakeWhile_concat_neg _ _ _ (by simp [isReset])]
  rfl

end Event

def step (i : DescriptionInput) : Event → DescriptionInput
  | .keyUp key text now => (i.keyUp key text now).2
  | .poll now => (i.poll now).2
  | .reset => i.reset

/-- The field after a history. -/
def run (i : DescriptionInput) (events : List Event) : DescriptionInput := events.foldl step i

/-- What polls at these times give, one after the other. -/
def polls (i : DescriptionInput) : List Nat → List (Option String)
  | [] => []
  | now :: later => (i.poll now).1 :: (i.poll now).2.polls later

variable {i : DescriptionInput} {key : Key} {text query : String} {now : Nat}

lemma run_concat (i : DescriptionInput) (events : List Event) (e : Event) :
    i.run (events ++ [e]) = (i.run events).step e := by
  simp [run, List.foldl_append]

lemma run_append (i : DescriptionInput) (before after : List Event) :
    i.run (before ++ after) = (i.run before).run after :=
  List.foldl_append

/-- Every history ends in polls, and before them stands an event that is none, if there is one. -/
lemma exists_last_input (events : List Event) :
    (∃ times : List Nat, events = times.map .poll) ∨
      ∃ (before : List Event) (e : Event) (times : List Nat),
        e.isPoll = false ∧ events = before ++ e :: times.map .poll := by
  induction events using List.reverseRecOn with
  | nil => exact Or.inl ⟨[], rfl⟩
  | append_singleton events last ih =>
    by_cases hlast : last.isPoll = true
    · obtain ⟨now, rfl⟩ : ∃ now, last = .poll now := by
        cases last with
        | poll now => exact ⟨now, rfl⟩
        | keyUp key text now => cases hlast
        | reset => cases hlast
      rcases ih with ⟨times, rfl⟩ | ⟨before, e, times, he, rfl⟩
      · exact Or.inl ⟨times ++ [now], by simp⟩
      · exact Or.inr ⟨before, e, times ++ [now], he, by simp⟩
    · exact Or.inr ⟨events, last, [], by simpa using hlast, rfl⟩

/-! ## What a key does -/

lemma keyUp_fst_eq_scheduled_iff :
    (i.keyUp key text now).1 = .scheduled ↔ i.minChars < text.length ∧ key.callsForLookup = true := by
  rw [keyUp]
  by_cases hcalls : i.minChars < text.length ∧ key.callsForLookup = true
  · simp [hcalls]
  · have hcalls' : (decide (i.minChars < text.length) && key.callsForLookup) = false := by
      simpa using hcalls
    simp only [hcalls', hcalls, iff_false, Bool.false_eq_true, if_false]
    split <;> simp

lemma keyUp_fst_eq_removeLastDescriptor_iff :
    (i.keyUp key text now).1 = .removeLastDescriptor ↔
      (i.keyUp key text now).1 ≠ .scheduled ∧ key = .backspace ∧ i.lastLength = 0 := by
  rw [keyUp]
  split
  · simp
  · split <;> simp_all

/-- A key that schedules a lookup leaves its text waiting. -/
lemma pending_keyUp_of_scheduled (h : (i.keyUp key text now).1 = .scheduled) :
    (i.keyUp key text now).2.debouncer.pending = some ⟨text, now + i.debouncer.quiet⟩ := by
  obtain ⟨hlength, hcalls⟩ := keyUp_fst_eq_scheduled_iff.mp h
  simp [keyUp, hlength, hcalls, Debouncer.schedule, Debouncer.cancel]

/-- Any other key leaves nothing waiting. -/
lemma pending_keyUp_of_not_scheduled (h : (i.keyUp key text now).1 ≠ .scheduled) :
    (i.keyUp key text now).2.debouncer.pending = none := by
  rw [keyUp] at h ⊢
  split
  · simp_all
  · split <;> rfl

lemma lastLength_keyUp (i : DescriptionInput) (key : Key) (text : String) (now : Nat) :
    (i.keyUp key text now).2.lastLength = text.length := by
  rw [keyUp]
  split
  · rfl
  · split <;> rfl

/-! ## What polls do -/

lemma poll_snd (i : DescriptionInput) (now : Nat) :
    (i.poll now).2 = { i with debouncer := (i.debouncer.poll now).2 } :=
  rfl

lemma poll_snd_of_none (h : (i.poll now).1 = none) : (i.poll now).2 = i := by
  rw [poll_snd, Debouncer.poll_snd_of_none h]

lemma poll_snd_of_some (h : (i.poll now).1 = some query) :
    (i.poll now).2 = { i with debouncer := i.debouncer.cancel } := by
  rw [poll_snd, Debouncer.poll_snd_of_some h]

lemma pending_poll_of_some (h : (i.poll now).1 = some query) :
    (i.poll now).2.debouncer.pending = none := by
  rw [poll_snd_of_some h]
  rfl

/-- What waits after polls has been waiting before them, and none of them has taken it. -/
lemma pending_run_polls (i : DescriptionInput) (times : List Nat) (p : PendingQuery) :
    (i.run (times.map .poll)).debouncer.pending = some p ↔
      i.debouncer.pending = some p ∧ ∀ answer ∈ i.polls times, answer = none := by
  induction times generalizing i with
  | nil => simp [run, polls]
  | cons now later ih =>
    have hrun : i.run ((now :: later).map .poll) = (i.poll now).2.run (later.map .poll) := rfl
    rw [hrun, ih, polls, List.forall_mem_cons]
    cases hanswer : (i.poll now).1 with
    | none => simp [poll_snd_of_none hanswer]
    | some query => simp [pending_poll_of_some hanswer]

/-- Where nothing waits, polls give nothing. -/
lemma polls_of_pending_eq_none (h : i.debouncer.pending = none) (times : List Nat) :
    ∀ answer ∈ i.polls times, answer = none := by
  induction times with
  | nil => simp [polls]
  | cons now later ih =>
    have hanswer : (i.poll now).1 = none := by
      rw [Option.eq_none_iff_forall_ne_some]
      intro query hquery
      obtain ⟨deadline, hpending, -⟩ := Debouncer.poll_fst_eq_some_iff.mp hquery
      rw [h] at hpending
      cases hpending
    rw [polls, poll_snd_of_none hanswer, hanswer]
    exact List.forall_mem_cons.mpr ⟨rfl, ih⟩

/-- Polls give nothing but what waits. -/
lemma pending_of_mem_polls {times : List Nat} (h : some query ∈ i.polls times) :
    ∃ deadline, i.debouncer.pending = some ⟨query, deadline⟩ := by
  induction times with
  | nil => cases h
  | cons now later ih =>
    rw [polls, List.mem_cons] at h
    cases hanswer : (i.poll now).1 with
    | none =>
      rw [hanswer, poll_snd_of_none hanswer] at h
      exact ih (h.resolve_left (by simp))
    | some taken =>
      have hrest := polls_of_pending_eq_none (pending_poll_of_some hanswer) later
      rcases h with hnow | hlater
      · obtain ⟨deadline, hpending, -⟩ := Debouncer.poll_fst_eq_some_iff.mp hnow.symm
        exact ⟨deadline, hpending⟩
      · exact absurd (hrest _ hlater) (by simp)

/-- Of any polls in a row, one at most gives a query. -/
lemma countP_polls_le_one (i : DescriptionInput) (times : List Nat) :
    (i.polls times).countP Option.isSome ≤ 1 := by
  induction times with
  | nil => exact Nat.zero_le 1
  | cons now later ih =>
    rw [polls, List.countP_cons]
    cases hanswer : (i.poll now).1 with
    | none =>
      rw [poll_snd_of_none hanswer]
      exact ih
    | some query =>
      have hrest := polls_of_pending_eq_none (pending_poll_of_some hanswer) later
      have hcount : ((i.poll now).2.polls later).countP Option.isSome = 0 :=
        List.countP_eq_zero.mpr fun answer hanswer => by simp [hrest answer hanswer]
      rw [hcount]
      exact Nat.le_refl 1

/-! ## What a history leaves -/

lemma quiet_step (i : DescriptionInput) (e : Event) :
    (i.step e).debouncer.quiet = i.debouncer.quiet ∧ (i.step e).minChars = i.minChars := by
  cases e with
  | keyUp key text now =>
    rw [step, keyUp]
    split
    · exact ⟨rfl, rfl⟩
    · split <;> exact ⟨rfl, rfl⟩
  | poll now =>
    cases hanswer : (i.poll now).1 with
    | none =>
      rw [step, poll_snd_of_none hanswer]
      exact ⟨rfl, rfl⟩
    | some query =>
      rw [step, poll_snd_of_some hanswer]
      exact ⟨rfl, rfl⟩
  | reset => exact ⟨rfl, rfl⟩

lemma quiet_run (i : DescriptionInput) (events : List Event) :
    (i.run events).debouncer.quiet = i.debouncer.quiet ∧ (i.run events).minChars = i.minChars := by
  induction events using List.reverseRecOn with
  | nil => exact ⟨rfl, rfl⟩
  | append_singleton events e ih =>
    rw [run_concat, (quiet_step _ e).1, (quiet_step _ e).2]
    exact ih

/-- The length that is kept is the length of the text reported last. -/
lemma lastLength_run (quiet minChars : Nat) (events : List Event) :
    ((new quiet minChars).run events).lastLength =
      ((Event.lastText? events).getD "").length := by
  induction events using List.reverseRecOn with
  | nil => rfl
  | append_singleton events e ih =>
    rw [run_concat]
    cases e with
    | keyUp key text now => rw [Event.lastText?_concat_keyUp, step, lastLength_keyUp]; rfl
    | poll now => rw [Event.lastText?_concat_poll]; exact ih
    | reset => rw [Event.lastText?_concat_reset]; rfl

/-- What waits after a history is the text of a key with nothing but polls behind it, which
scheduled a lookup that none of these polls has taken. -/
lemma pending_run_iff (quiet minChars : Nat) (events : List Event) (p : PendingQuery) :
    let start := new quiet minChars
    (start.run events).debouncer.pending = some p ↔
      ∃ before key now times,
        events = before ++ .keyUp key p.query now :: times.map .poll ∧
        ((start.run before).keyUp key p.query now).1 = .scheduled ∧
        p.deadline = now + quiet ∧
        ∀ answer ∈ ((start.run before).keyUp key p.query now).2.polls times, answer = none := by
  intro start
  have hquiet : ∀ before, (start.run before).debouncer.quiet = quiet := fun before =>
    (quiet_run start before).1
  constructor
  · intro hpending
    rcases exists_last_input events with ⟨times, rfl⟩ | ⟨before, e, times, he, rfl⟩
    · cases ((pending_run_polls start times p).mp hpending).1
    · rw [run_append] at hpending
      obtain ⟨hleft, hnone⟩ := (pending_run_polls ((start.run before).step e) times p).mp hpending
      cases e with
      | keyUp key text now =>
        by_cases hscheduled : ((start.run before).keyUp key text now).1 = .scheduled
        · obtain rfl := Option.some.inj
            ((pending_keyUp_of_scheduled hscheduled).symm.trans hleft)
          exact ⟨before, key, now, times, rfl, hscheduled, by rw [hquiet], hnone⟩
        · rw [step, pending_keyUp_of_not_scheduled hscheduled] at hleft
          cases hleft
      | poll now => cases he
      | reset => cases hleft
  · rintro ⟨before, key, now, times, rfl, hscheduled, hdeadline, hnone⟩
    rw [run_append]
    refine (pending_run_polls ((start.run before).keyUp key p.query now).2 times p).mpr ⟨?_, hnone⟩
    rw [pending_keyUp_of_scheduled hscheduled, hquiet, ← hdeadline]

/-- **A field looks up what was typed last, once, and after the quiet interval**, whatever keys,
polls and resets it heard of before and at whatever times.

A key schedules a lookup exactly when the text is longer than the minimum and the key is a letter or
the backspace.  Otherwise it takes the last descriptor away exactly when it is the backspace and the
text reported last, if any since the last reset, was empty; and otherwise it clears.  A poll gives a
query exactly when the last event that was no poll is a key that scheduled this query, the quiet
interval has passed since, and no poll has given it yet.  So of any polls in a row one at most gives
a query, after a key they give nothing but what this key scheduled, and after a reset nothing. -/
theorem run_looks_up (quiet minChars : Nat) (events : List Event) :
    let start := new quiet minChars
    let i := start.run events
    (∀ key text now,
      ((i.keyUp key text now).1 = .scheduled ↔ minChars < text.length ∧
        (key = .backspace ∨
          ∃ c, key = .char c ∧ (('A' ≤ c ∧ c ≤ 'Z') ∨ ('a' ≤ c ∧ c ≤ 'z')))) ∧
      ((i.keyUp key text now).1 = .removeLastDescriptor ↔
        (i.keyUp key text now).1 ≠ .scheduled ∧ key = .backspace ∧
          ∀ last, Event.lastText? events = some last → last = "") ∧
      ((i.keyUp key text now).1 = .cleared ↔
        (i.keyUp key text now).1 ≠ .scheduled ∧
          (i.keyUp key text now).1 ≠ .removeLastDescriptor)) ∧
    (∀ now query, (i.poll now).1 = some query ↔
      ∃ before key time times,
        events = before ++ .keyUp key query time :: times.map .poll ∧
        ((start.run before).keyUp key query time).1 = .scheduled ∧
        time + quiet ≤ now ∧
        ∀ answer ∈ ((start.run before).keyUp key query time).2.polls times, answer = none) ∧
    (∀ times, (i.polls times).countP Option.isSome ≤ 1) ∧
    (∀ key text now times query, some query ∈ (i.keyUp key text now).2.polls times →
      (i.keyUp key text now).1 = .scheduled ∧ query = text) ∧
    ∀ times, ∀ answer ∈ i.reset.polls times, answer = none := by
  intro start i
  have hminChars : i.minChars = minChars := (quiet_run start events).2
  have hlast : i.lastLength = 0 ↔ ∀ last, Event.lastText? events = some last → last = "" := by
    rw [lastLength_run]
    cases Event.lastText? events <;> simp
  refine ⟨?_, ?_, countP_polls_le_one i, ?_, polls_of_pending_eq_none rfl⟩
  · intro key text now
    refine ⟨?_, ?_, ?_⟩
    · rw [keyUp_fst_eq_scheduled_iff, hminChars, Key.callsForLookup_iff]
    · rw [keyUp_fst_eq_removeLastDescriptor_iff, hlast]
    · cases (i.keyUp key text now).1 <;> simp
  · intro now query
    rw [poll, Debouncer.poll_fst_eq_some_iff]
    constructor
    · rintro ⟨deadline, hpending, hdue⟩
      obtain ⟨before, key, time, times, hevents, hscheduled, hdeadline, hnone⟩ :=
        (pending_run_iff quiet minChars events _).mp hpending
      exact ⟨before, key, time, times, hevents, hscheduled, hdeadline ▸ hdue, hnone⟩
    · rintro ⟨before, key, time, times, hevents, hscheduled, hdue, hnone⟩
      exact ⟨time + quiet, (pending_run_iff quiet minChars events ⟨query, time + quiet⟩).mpr
        ⟨before, key, time, times, hevents, hscheduled, rfl, hnone⟩, hdue⟩
  · intro key text now times query h
    obtain ⟨deadline, hpending⟩ := pending_of_mem_polls h
    by_cases hscheduled : (i.keyUp key text now).1 = .scheduled
    · rw [pending_keyUp_of_scheduled hscheduled] at hpending
      cases hpending
      exact ⟨hscheduled, rfl⟩
    · rw [pending_keyUp_of_not_scheduled hscheduled] at hpending
      cases hpending

/-- The later of two keys starts the interval anew, and polls before its end do no harm. -/
theorem run_looks_up_later_key :
    let events : List Event :=
      [.keyUp (.char 'u') "zeu" 0, .keyUp (.char 's') "zeus" 200, .poll 300, .poll 499]
    let i := (new 300 2).run events
    (i.poll 500).1 = some "zeus" ∧ ∀ times, ∀ answer ∈ i.reset.polls times, answer = none := by
  intro events i
  obtain ⟨-, hpoll, -, -, hreset⟩ := run_looks_up 300 2 events
  refine ⟨(hpoll 500 "zeus").mpr ?_, hreset⟩
  exact ⟨[.keyUp (.char 'u') "zeu" 0], .char 's', 200, [300, 499], rfl, by decide, by decide,
    by decide⟩

end DescriptionInput

end CoinQuery
