import DistLock.Step

/-!
# Renewal of a lease

A renewer keeps the lease of one lock alive: it sleeps, starts the lease
anew, and sleeps again, until it is cancelled or a renewal fails. Whatever
it is doing, it looks for its cancellation first; a renewer that is
cancelled ends without an error and leaves an unfinished call unanswered.

* `wake` lets it go on at a given time, `answer` brings it the
  answer to its call;
* `cancel` asks it to end, and `join` takes over how it ended, once;
* a call that breaks down takes the renewer with it, and its phase
  remains what it was.
-/

namespace DistLock

/-! ## When to renew -/

/-- The shortest time between two renewals, in seconds. -/
def minRefreshSeconds : Nat := 10

/-- How long before the end of a lease it is renewed, in seconds. -/
def refreshMarginSeconds : Nat := 30

/-- The seconds between two renewals of a lease. -/
def refreshInterval (lease : UInt32) : Nat :=
  max (lease.toNat - refreshMarginSeconds) minRefreshSeconds

/-- How long a renewer sleeps before it renews a lease, in milliseconds. -/
def refreshPause (lease : UInt32) : Nat := sleepTime (1000 * refreshInterval lease)

/-! ## The machine -/

/-- What an observer is told. -/
inductive RenewalPhase where
  /-- The next renewal lies ahead. -/
  | scheduled
  /-- A renewal is in progress. -/
  | renewing
  | stopped
  deriving DecidableEq, Repr

def RenewalPhase.name : RenewalPhase → String
  | .scheduled => "Scheduled"
  | .renewing => "Renewing"
  | .stopped => "Stopped"

/-- What a renewer is doing. -/
inductive RenewalStage where
  /-- It has not begun. -/
  | ready
  | sleeping (due : Nat)
  | refreshing (run : Run RefreshLockRequest)
  | ended (error : Option ClientError)
  | crashed (text : String)
  deriving DecidableEq, Repr

structure Renewer where
  policy : RetryPolicy
  name : String
  key : String
  /-- The lease in seconds. -/
  lease : UInt32
  phase : RenewalPhase := .scheduled
  /-- The number of renewals that the service granted; the count starts anew
  after the largest number. -/
  counter : UInt64 := 0
  /-- It was asked to end. -/
  cancelled : Bool := false
  /-- How it ended was taken over. -/
  joined : Bool := false
  stage : RenewalStage := .ready
  deriving DecidableEq, Repr

namespace Renewer

/-- The seconds that are wanted from one renewal to the next. -/
def interval (r : Renewer) : Nat := refreshInterval r.lease

/-- How long it sleeps from one renewal to the next. -/
def pause (r : Renewer) : Nat := refreshPause r.lease

/-- The number of renewals, as it is read off the counter. -/
def refreshes (r : Renewer) : Nat := r.counter.toNat

/-- What is sent with each renewal. -/
def request (r : Renewer) : RefreshLockRequest := .ofSeconds r.name r.key r.lease

def invocation (r : Renewer) : Invocation RefreshLockRequest :=
  { policy := r.policy, operation := .refreshLock, request := r.request }

/-- A renewer begins in its own time; that there is one is logged at once. -/
def start (policy : RetryPolicy) (name key : String) (lease : UInt32) :
    Renewer × List LogEvent :=
  let r : Renewer := { policy, name, key, lease }
  (r, [.renewerStarted name r.interval])

/-- It has neither ended nor broken down. -/
def isAlive (r : Renewer) : Bool :=
  match r.stage with
  | .ended _ | .crashed _ => false
  | _ => true

/-- It is alive and nobody has taken over how it ended. -/
def isRunning (r : Renewer) : Bool := r.isAlive && !r.joined

/-- A call of it is under way. -/
def isWaiting (r : Renewer) : Bool :=
  match r.stage with
  | .refreshing run => run.isWaiting
  | _ => false

def finish (r : Renewer) (error : Option ClientError) : Step Renewer Unit :=
  { next := { r with phase := .stopped, stage := .ended error }
    log := error.toList.map (.renewalFailed r.name) }

/-- Sleeps until the next renewal. -/
def schedule (r : Renewer) (now : Nat) : Renewer :=
  { r with phase := .scheduled, stage := .sleeping (now + r.pause) }

/-- Sends a call. -/
def attempt (r : Renewer) (run : Run RefreshLockRequest) : Step Renewer Unit :=
  { next := { r with phase := .renewing, stage := .refreshing run }
    sent := some (.refreshLock run.request) }

/-- Goes on, as far as the time allows. -/
def wake (r : Renewer) (now : Nat) : Step Renewer Unit :=
  if r.isAlive && r.cancelled then r.finish none
  else
    match r.stage with
    | .ready => .stay (r.schedule now)
    | .sleeping due => if due ≤ now then r.attempt (.start r.invocation) else .stay r
    | .refreshing run =>
      match run.resume? now with
      | some run => r.attempt run
      | none => .stay r
    | .ended _ | .crashed _ => .stay r

/-- What follows from the end of a renewal. -/
def conclude (r : Renewer) (now : Nat) : Outcome LockResponse → Step Renewer Unit
  | .ok response =>
    if response.locked then
      let r := { r with counter := r.counter + 1 }
      { next := r.schedule now, log := [.leaseRefreshed r.name r.refreshes] }
    else r.finish (some .notLocked)
  | .error e => r.finish (some e)
  | .crash text => .stay { r with stage := .crashed text }

/-- The answer to the call under way arrives. -/
def answer (r : Renewer) (now : Nat) (reply : Reply LockResponse) : Step Renewer Unit :=
  match r.stage with
  | .refreshing run =>
    if !run.isWaiting then .stay r
    else if r.cancelled then r.finish none
    else
      match run.answer now reply with
      | (.pausing run, log) => { next := { r with stage := .refreshing run }, log }
      | (.finished outcome, log) => (r.conclude now outcome).after log
  | _ => .stay r

/-- Asks it to end. -/
def cancel (r : Renewer) : Renewer := { r with cancelled := true }

/-- Takes over how it ended, if it has; the second time there is
nothing to take over. -/
def join (r : Renewer) : Step Renewer (Outcome Unit) :=
  if r.joined then { next := r, result := some (.ok ()) }
  else
    match r.stage with
    | .ended error =>
      { next := { r with joined := true }
        log := [.renewerStopped r.name]
        result := some (error.elim (.ok ()) .error) }
    | .crashed text => { next := { r with joined := true }, result := some (.crash text) }
    | _ => .stay r

/-- From when on `wake` does something; `none` while it waits for an
answer or is over. -/
def dueAt (r : Renewer) : Option Nat :=
  if !r.isAlive then none
  else if r.cancelled then some 0
  else
    match r.stage with
    | .ready => some 0
    | .sleeping due => some due
    | .refreshing run => run.resumeAt
    | .ended _ | .crashed _ => none

end Renewer

end DistLock
