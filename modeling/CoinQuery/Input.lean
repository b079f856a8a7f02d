/-!
# Description fields

A description field looks up recommendations while its text is typed, but not for every key: a
lookup waits until no key has been released for a quiet interval. Every key cancels the lookup that
is waiting. A key that calls for none clears the recommendations, and a backspace in a field that
was empty before also takes away the last descriptor of its side.

Time is a count of milliseconds that comes with every event.
-/

namespace CoinQuery

/-! ## Keys -/

inductive Key
  | char (c : Char)
  | backspace
  | other
deriving DecidableEq

namespace Key

/-- Keys that stand for a character are named by it. -/
def ofName (name : String) : Key :=
  if name = "Backspace" then backspace
  else match name.toList with
    | [c] => char c
    | _ => other

/-- ASCII letters and the backspace call for a lookup. -/
def callsForLookup : Key → Bool
  | char c => c.isAlpha
  | backspace => true
  | other => false

end Key

/-! ## Debouncing -/

structure PendingQuery where
  query : String
  deadline : Nat
deriving DecidableEq

/-- Holds back at most one query for a quiet interval. -/
structure Debouncer where
  quiet : Nat
  pending : Option PendingQuery
deriving DecidableEq

namespace Debouncer

def new (quiet : Nat) : Debouncer := ⟨quiet, none⟩

/-- Replaces what is pending. -/
def schedule (d : Debouncer) (query : String) (now : Nat) : Debouncer :=
  { d with pending := some ⟨query, now + d.quiet⟩ }

def cancel (d : Debouncer) : Debouncer := { d with pending := none }

def isPending (d : Debouncer) : Bool := d.pending.isSome

/-- Takes the pending query when its deadline has come. -/
def poll (d : Debouncer) (now : Nat) : Option String × Debouncer :=
  match d.pending with
  | some p => if p.deadline ≤ now then (some p.query, d.cancel) else (none, d)
  | none => (none, d)

end Debouncer

/-! ## Fields -/

/-- What is to be done after a key. -/
inductive InputAction
  | scheduled
  | cleared
  | removeLastDescriptor
deriving DecidableEq

def InputAction.name : InputAction → String
  | scheduled => "Scheduled"
  | cleared => "Cleared"
  | removeLastDescriptor => "RemoveLastDescriptor"

structure DescriptionInput where
  debouncer : Debouncer
  /-- A lookup needs more characters than this. -/
  minChars : Nat
  /-- The length of the text after the last key. -/
  lastLength : Nat
deriving DecidableEq

namespace DescriptionInput

def new (quiet minChars : Nat) : DescriptionInput := ⟨.new quiet, minChars, 0⟩

/-- A key was released; `text` is what the field holds after it. -/
def keyUp (i : DescriptionInput) (key : Key) (text : String) (now : Nat) :
    InputAction × DescriptionInput :=
  let wasEmpty := i.lastLength == 0
  let i := { i with debouncer := i.debouncer.cancel, lastLength := text.length }
  if i.minChars < text.length && key.callsForLookup then
    (.scheduled, { i with debouncer := i.debouncer.schedule text now })
  else if key = .backspace && wasEmpty then (.removeLastDescriptor, i)
  else (.cleared, i)

def poll (i : DescriptionInput) (now : Nat) : Option String × DescriptionInput :=
  let (query, debouncer) := i.debouncer.poll now
  (query, { i with debouncer })

def isPending (i : DescriptionInput) : Bool := i.debouncer.isPending

/-- The field was emptied without a key. -/
def reset (i : DescriptionInput) : DescriptionInput :=
  { i with debouncer := i.debouncer.cancel, lastLength := 0 }

end DescriptionInput

end CoinQuery
