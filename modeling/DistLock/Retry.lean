import DistLock.Log

/-!
# Calls with retries

An *invocation* sends one request until it is answered, as far as its
policy allows. Only a transient status is a reason to try again: every
answer is final, also one that holds a decision against the request, and so
is every other status.

`Invocation.settle` says what follows from the reply to one attempt. A `Run`
is an invocation in time: an attempt under way, or a pause until the next.
-/

namespace DistLock

/-! ## Sleeping -/

/-- The longest sleep in milliseconds: thirty years of 365 days. -/
def longestSleep : Nat := 30 * 365 * 24 * 60 * 60 * 1000

/-- How long a sleep lasts that is to last so long. -/
def sleepTime (wanted : Nat) : Nat := min wanted longestSleep

/-! ## Policies -/

/-- How unanswered calls are repeated. -/
structure RetryPolicy where
  /-- The pause that is wanted between two attempts, in milliseconds. -/
  interval : Nat := 5000
  /-- The number of repetitions; zero for no limit. -/
  maxRetries : UInt32 := 0
  deriving DecidableEq, Repr

namespace RetryPolicy

/-- The policy with a pause of so many seconds, at least one. -/
def ofSeconds (seconds : UInt64) (maxRetries : UInt32) : RetryPolicy :=
  ⟨1000 * max seconds.toNat 1, maxRetries⟩

/-- How long the pause between two attempts lasts. -/
def pause (p : RetryPolicy) : Nat := sleepTime p.interval

def isUnbounded (p : RetryPolicy) : Bool := p.maxRetries == 0

/-- No repetition is left after so many. -/
def isExhausted (p : RetryPolicy) (retries : UInt32) : Bool :=
  !p.isUnbounded && p.maxRetries ≤ retries

end RetryPolicy

/-! ## Invocations -/

/-- What came of one attempt. -/
inductive Reply (ρ : Type) where
  | response (r : ρ)
  /-- There was no answer. -/
  | failure (status : Status)
  /-- The call broke down with a text; nothing after it is done. -/
  | crash (text : String)
  deriving DecidableEq, Repr

/-- What came of something that can fail or break down. -/
inductive Outcome (ρ : Type) where
  | ok (value : ρ)
  | error (e : ClientError)
  | crash (text : String)
  deriving DecidableEq, Repr

/-- One request on its way to an answer. -/
structure Invocation (α : Type) where
  policy : RetryPolicy
  operation : Operation
  request : α
  /-- How often the call was repeated; the count starts anew after the
  largest number. -/
  retries : UInt32 := 0
  deriving DecidableEq, Repr

/-- What follows from a reply. -/
inductive Verdict (α ρ : Type) where
  | finished (outcome : Outcome ρ)
  /-- The next attempt follows after the pause of the policy. -/
  | again (next : Invocation α)
  deriving DecidableEq, Repr

namespace Invocation

variable {α ρ : Type} [HasDecision ρ]

/-- What follows from the reply to the current attempt. -/
def settle (i : Invocation α) : Reply ρ → Verdict α ρ × List LogEvent
  | .response r =>
    match decision r with
    | none => (.finished (.ok r), [])
    | some e =>
      (.finished (.error (.ofDecision e)), [.requestRejected i.operation e.code e.message])
  | .failure status =>
    if !status.isTransient then (.finished (.error (.unanswered status)), [])
    else if i.policy.isExhausted i.retries then
      (.finished (.error (.unanswered status)),
        [.retriesExhausted i.operation i.retries status])
    else
      let retries := i.retries + 1
      (.again { i with retries }, [.retrying i.operation retries status i.policy.interval])
  | .crash text => (.finished (.crash text), [])

end Invocation

/-! ## Invocations in time -/

/-- An invocation in time. -/
structure Run (α : Type) where
  invocation : Invocation α
  /-- When the next attempt starts; `none` while one is under way. -/
  resumeAt : Option Nat := none
  deriving DecidableEq, Repr

/-- Where a run stands after a reply. -/
inductive Progress (α ρ : Type) where
  | finished (outcome : Outcome ρ)
  | pausing (run : Run α)
  deriving DecidableEq, Repr

namespace Run

variable {α ρ : Type} [HasDecision ρ]

/-- The run whose first attempt is under way. -/
def start (i : Invocation α) : Run α := ⟨i, none⟩

/-- The request that is sent with every attempt. -/
def request (r : Run α) : α := r.invocation.request

/-- An attempt is under way. -/
def isWaiting (r : Run α) : Bool := r.resumeAt.isNone

/-- The reply to the attempt under way arrives. -/
def answer (r : Run α) (now : Nat) (reply : Reply ρ) : Progress α ρ × List LogEvent :=
  match r.invocation.settle reply with
  | (.finished outcome, log) => (.finished outcome, log)
  | (.again next, log) => (.pausing ⟨next, some (now + next.policy.pause)⟩, log)

/-- The run with its next attempt under way, if the pause before it is over. -/
def resume? (r : Run α) (now : Nat) : Option (Run α) :=
  match r.resumeAt with
  | some due => if due ≤ now then some { r with resumeAt := none } else none
  | none => none

end Run

/-! ## Playing an invocation against given replies -/

/-- What one invocation did. -/
structure Transcript (α ρ : Type) where
  /-- What came of it, or `none` if it was given up. -/
  outcome : Option (Outcome ρ)
  /-- When it ended. -/
  endedAt : Nat
  /-- The times of the attempts and what was sent. -/
  attempts : List (Nat × α)
  log : List LogEvent

namespace Invocation

variable {α ρ : Type} [HasDecision ρ]

/-- Plays an invocation whose next attempt starts at `now`. Each reply
arrives so many milliseconds after its attempt; an attempt for which there
is none waits for ever. What is not over at `limit` is given up. -/
def play (limit : Nat) : (now : Nat) → Invocation α → List (Nat × Reply ρ) → Transcript α ρ
  | now, i, [] => ⟨none, max now limit, [(now, i.request)], []⟩
  | now, i, (delay, reply) :: replies =>
    let arrival := now + delay
    if limit < arrival then ⟨none, limit, [(now, i.request)], []⟩
    else
      match i.settle reply with
      | (.finished outcome, log) => ⟨some outcome, arrival, [(now, i.request)], log⟩
      | (.again next, log) =>
        let due := arrival + next.policy.pause
        if limit < due then ⟨none, limit, [(now, i.request)], log⟩
        else
          let rest := play limit due next replies
          { rest with attempts := (now, i.request) :: rest.attempts, log := log ++ rest.log }

end Invocation

end DistLock
