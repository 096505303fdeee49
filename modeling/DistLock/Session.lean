import DistLock.Renewer

/-!
# Sessions

A session is the right to take one lock once and to give it back once. Its
state only moves from `idle` over `acquiring` to `held` or `notHeld`, and
from `held` over `releasing` to `released`. While a lock is held, its handle
shows the key, and its renewer runs if the lock has a lease.

This module holds what a session is and what changes in it; when it changes
is said in `DistLock.Lifecycle`.
-/

namespace DistLock

inductive SessionState where
  | idle
  | acquiring
  | held
  | notHeld
  | releasing
  | released
  deriving DecidableEq, Repr

def SessionState.name : SessionState → String
  | .idle => "Idle"
  | .acquiring => "Acquiring"
  | .held => "Held"
  | .notHeld => "NotHeld"
  | .releasing => "Releasing"
  | .released => "Released"

/-! ## Handles -/

/-- What a holder knows of a lock. -/
structure LockHandle where
  name : String
  /-- Empty unless the lock is held. -/
  secret : String := ""
  locked : Bool := false
  acquiredAt : Option Nat := none
  deriving DecidableEq, Repr

namespace LockHandle

def held (name key : String) (now : Nat) : LockHandle :=
  { name, secret := key, locked := true, acquiredAt := some now }

def notHeld (name : String) : LockHandle := { name }

/-- The key can be read only while the lock is held. -/
def key? (h : LockHandle) : Option String := if h.locked then some h.secret else none

/-- The lock was given back; when it was taken remains known. -/
def markReleased (h : LockHandle) : LockHandle := { h with locked := false, secret := "" }

end LockHandle

/-! ## Acquisitions -/

/-- How a lock is to be taken. Zero leaves a number to the service. -/
structure LockOptions where
  waitTimeout : UInt32 := 0
  lease : UInt32 := 0
  size : UInt32 := 0
  /-- A wait that takes too long is an error. -/
  raiseOnWaitTimeout : Bool := false
  deriving DecidableEq, Repr

/-- A wish for a lock. -/
structure Acquisition where
  /-- Waits for a lock that is taken. -/
  waits : Bool
  name : String
  options : LockOptions := {}
  deriving DecidableEq, Repr

namespace Acquisition

def operation (a : Acquisition) : Operation := if a.waits then .lock else .tryLock

def request (a : Acquisition) : Request :=
  if a.waits then
    .lock <| (({ name := a.name : LockRequest }.withWaitTimeout a.options.waitTimeout).withLease
      a.options.lease).withSize a.options.size
  else
    .tryLock <| ({ name := a.name : TryLockRequest }.withLease a.options.lease).withSize
      a.options.size

/-- A time to wait makes no sense where there is no waiting. -/
def check (a : Acquisition) : Except ClientError Unit :=
  if !a.waits && 0 < a.options.waitTimeout then
    .error (.invalidRequest "wait timeout not supported for try_lock")
  else .ok ()

/-- A wait that took too long means that the lock was not acquired, unless
it is to be an error. -/
def soften (a : Acquisition) : Outcome LockResponse → Outcome LockResponse × List LogEvent
  | .error .lockWaitTimeout =>
    if a.waits && !a.options.raiseOnWaitTimeout then
      (.ok (.refused a.name), [.waitTimedOut a.name])
    else (.error .lockWaitTimeout, [])
  | outcome => (outcome, [])

end Acquisition

/-! ## Sessions -/

structure Session where
  policy : RetryPolicy
  /-- The lease of a lock is kept alive. -/
  autoRefresh : Bool := true
  state : SessionState := .idle
  handle : Option LockHandle := none
  renewer : Option Renewer := none
  deriving DecidableEq, Repr

namespace Session

def isLocked (s : Session) : Bool := s.handle.any (·.locked)

/-- The lock is to be given back. -/
def owesUnlock (s : Session) : Bool :=
  (s.state == .held || s.state == .releasing) && s.isLocked

def renewalPhase (s : Session) : Option RenewalPhase := s.renewer.map (·.phase)

def isRenewing (s : Session) : Bool := s.renewer.any (·.isRunning)

def refreshCount (s : Session) : Nat := s.renewer.elim 0 (·.refreshes)

/-- A session is used once, and for a lock with a name. -/
def begin (s : Session) (a : Acquisition) : Except ClientError Session := do
  a.check
  if s.state ≠ .idle then
    throw (.invalidState ("session already used (" ++ s.state.name ++ ")"))
  if a.name = "" then throw (.invalidRequest "lock name must not be empty")
  pure { s with state := .acquiring }

/-- The lock was not acquired. -/
def refuse (s : Session) (name : String) : Session :=
  { s with state := .notHeld, handle := some (.notHeld name) }

/-- The lock was acquired with the given key. -/
def grant (s : Session) (a : Acquisition) (key : String) (now : Nat) : Session × List LogEvent :=
  let s := { s with state := .held, handle := some (.held a.name key now) }
  let acquired := LogEvent.lockAcquired a.name a.options.lease
  if 0 < a.options.lease && s.autoRefresh then
    let (renewer, log) := Renewer.start s.policy a.name key a.options.lease
    ({ s with renewer := some renewer }, log ++ [acquired])
  else (s, [acquired])

/-- What follows from the end of an acquisition. One that breaks down leaves
the session as it is. -/
def complete (s : Session) (a : Acquisition) (now : Nat) (outcome : Outcome LockResponse) :
    Step Session (Outcome LockHandle) :=
  match a.soften outcome with
  | (.ok response, log) =>
    if response.locked then
      let (s, more) := s.grant a response.key now
      { next := s, log := log ++ more, result := some (.ok (.held a.name response.key now)) }
    else { next := s.refuse a.name, log, result := some (.ok (.notHeld a.name)) }
  | (.error e, log) => { next := s.refuse a.name, log, result := some (.error e) }
  | (.crash text, log) => { next := s, log, result := some (.crash text) }

/-- The lock is given back, as far as this side knows. -/
def markReleased (s : Session) : Session :=
  { s with state := .released, handle := s.handle.map (·.markReleased) }

/-- What follows from the end of the call that gives the lock back, when the
renewal of its lease had ended with the given error. A call that breaks down
leaves the lock to be given back. -/
def concludeRelease (s : Session) (name : String) (renewal : Option ClientError) :
    Outcome UnlockResponse → Step Session (Outcome Unit)
  | .crash text => { next := s, result := some (.crash text) }
  | .ok response =>
    if response.unlocked then
      { next := s.markReleased
        log := [.lockReleased name]
        result := some (renewal.elim (.ok ()) fun e => .error (.renewalFailed name e)) }
    else
      { next := s.markReleased
        result := some (.error (.releaseFailed name "server reported unlocked=false")) }
  | .error e =>
    { next := s.markReleased
      result := some (.error (if e.isServerDecision then .releaseFailed name e.message else e)) }

end Session

end DistLock
