/-!
# The order of compile requests

Every request gets the next number. An answer counts only if its number was given out and is above
every number answered before, whether that answer was a success or not; so a late answer never
replaces a newer one.
-/

namespace CoinQuery

structure CompileSequencer where
  issued : Nat
  answered : Nat
deriving DecidableEq

namespace CompileSequencer

def new : CompileSequencer := ⟨0, 0⟩

def issue (s : CompileSequencer) : Nat × CompileSequencer :=
  (s.issued + 1, { s with issued := s.issued + 1 })

def accept (s : CompileSequencer) (seq : Nat) : Bool × CompileSequencer :=
  if s.answered < seq && seq ≤ s.issued then (true, { s with answered := seq }) else (false, s)

/-- Whether the newest request is still to be answered. -/
def isPending (s : CompileSequencer) : Bool := s.answered < s.issued

end CompileSequencer

end CoinQuery
