import DistLock.Retry

/-!
# Steps

The parts of the client that live in time are machines: a state, and a
function that says what one event does to it. Such a function gives a
`Step`: the next state, the request that is sent, what is logged, and the
result if something came to its end. A step sends one request at most.

Machines hold no clock. Times at which they want to go on are part of their
state, and the present time comes with each event.
-/

namespace DistLock

/-- What one event does to a machine with states `σ` and results `τ`. -/
structure Step (σ τ : Type) where
  next : σ
  sent : Option Request := none
  log : List LogEvent := []
  result : Option τ := none

namespace Step

variable {σ σ' τ τ' : Type}

/-- Nothing happens. -/
def stay (s : σ) : Step σ τ := { next := s }

/-- The same step of a part, seen from the whole. -/
def lift (s : Step σ τ) (f : σ → σ') : Step σ' τ :=
  { next := f s.next, sent := s.sent, log := s.log, result := s.result }

/-- The step without its result. -/
def silent (s : Step σ τ) : Step σ τ' := { next := s.next, sent := s.sent, log := s.log }

/-- What was logged before the step. -/
def after (s : Step σ τ) (log : List LogEvent) : Step σ τ := { s with log := log ++ s.log }

/-- The step with another result. -/
def returning (s : Step σ τ) (result : Option τ') : Step σ τ' :=
  { next := s.next, sent := s.sent, log := s.log, result }

end Step

/-- The answer to a call, by what the call asked for. -/
inductive Answer where
  /-- To a request for a lock. -/
  | acquired (reply : Reply LockResponse)
  /-- To a request for a fresh lease. -/
  | refreshed (reply : Reply LockResponse)
  /-- To the return of a lock. -/
  | unlocked (reply : Reply UnlockResponse)
  deriving DecidableEq, Repr

end DistLock
