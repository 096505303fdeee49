import DistLock.Lifecycle

/-!
# Clients

What a client does besides sessions: it refreshes and unlocks by name and
key, for a lock that was taken elsewhere. Such a direct call is one
invocation, and what the service decides is returned.
-/

namespace DistLock

structure Client where
  policy : RetryPolicy
  /-- Sessions of this client keep the leases of their locks alive. -/
  autoRefresh : Bool := true
  deriving DecidableEq, Repr

def Client.session (c : Client) : Lifecycle := .new c.policy c.autoRefresh

/-- A call without a session. -/
inductive DirectCall where
  | refresh (run : Run RefreshLockRequest)
  | unlock (run : Run UnlockRequest)
  | over
  deriving DecidableEq, Repr

/-- What a direct call came to. -/
inductive DirectResult where
  | refreshed (outcome : Outcome LockResponse)
  | unlocked (outcome : Outcome Bool)
  deriving DecidableEq, Repr

namespace Client

/-- A fresh lease for a lock. -/
def refreshLock (c : Client) (name key : String) (lease : UInt32) :
    Step DirectCall DirectResult :=
  if name = "" ∨ key = "" then
    { next := .over
      result := some (.refreshed (.error
        (.invalidRequest "refresh requires a lock name and key"))) }
  else
    let request := RefreshLockRequest.ofSeconds name key lease
    { next := .refresh (.start { policy := c.policy, operation := .refreshLock, request })
      sent := some (.refreshLock request) }

/-- The return of a lock. -/
def unlock (c : Client) (name key : String) : Step DirectCall DirectResult :=
  if name = "" ∨ key = "" then
    { next := .over
      result := some (.unlocked (.error
        (.invalidRequest "unlock requires a lock name and key"))) }
  else
    let request : UnlockRequest := ⟨name, key⟩
    { next := .unlock (.start (unlockInvocation c.policy request))
      sent := some (.unlock request) }

end Client

namespace DirectCall

/-- The call is under way. -/
def isWaiting : DirectCall → Bool
  | .refresh run => run.isWaiting
  | .unlock run => run.isWaiting
  | .over => false

/-- The service says whether it took the lock back. -/
def unlockedFlag : Outcome UnlockResponse → Outcome Bool
  | .ok response => .ok response.unlocked
  | .error e => .error e
  | .crash text => .crash text

def answer (d : DirectCall) (now : Nat) (a : Answer) : Step DirectCall DirectResult :=
  if !d.isWaiting then .stay d
  else
    match d, a with
    | .refresh run, .refreshed reply =>
      match run.answer now reply with
      | (.pausing run, log) => { next := .refresh run, log }
      | (.finished outcome, log) => { next := .over, log, result := some (.refreshed outcome) }
    | .unlock run, .unlocked reply =>
      match run.answer now reply with
      | (.pausing run, log) => { next := .unlock run, log }
      | (.finished outcome, log) =>
        { next := .over, log, result := some (.unlocked (unlockedFlag outcome)) }
    | _, _ => .stay d

def wake (d : DirectCall) (now : Nat) : Step DirectCall DirectResult :=
  match d with
  | .refresh run =>
    match run.resume? now with
    | some run => { next := .refresh run, sent := some (.refreshLock run.request) }
    | none => .stay d
  | .unlock run =>
    match run.resume? now with
    | some run => { next := .unlock run, sent := some (.unlock run.request) }
    | none => .stay d
  | .over => .stay d

/-- From when on `wake` does something. -/
def dueAt : DirectCall → Option Nat
  | .refresh run => run.resumeAt
  | .unlock run => run.resumeAt
  | .over => none

end DirectCall

end DistLock
