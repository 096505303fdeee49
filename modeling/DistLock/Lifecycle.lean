import DistLock.Session

/-!
# The life of a session

A session lives in the hands of an *owner*, who acquires and releases with
it, may abandon what is under way, and in the end drops it. A session that
is dropped while it holds its lock becomes a *background release*, or, where
nothing can run in the background, leaves the lock to expire. The renewer of
the session works beside all that and ends with it.

`Lifecycle.step` says what one event does. An event that does not fit
changes nothing: an answer for which nobody waits, or an operation while
another is under way.
-/

namespace DistLock

/-- What the owner of a session is waiting for. -/
inductive Activity where
  | resting
  /-- The answer to its request for the lock. -/
  | acquiring (a : Acquisition) (run : Run Request)
  /-- The end of the renewer, before the lock is given back. -/
  | stopping
  /-- The answer to the return of the lock; the renewer had ended with
  the given error. -/
  | unlocking (renewal : Option ClientError) (run : Run UnlockRequest)
  deriving DecidableEq, Repr

/-- How far the release of a dropped session is. -/
inductive BackgroundStage where
  /-- It has not begun. -/
  | ready
  | stopping
  | unlocking (run : Run UnlockRequest)
  | done
  deriving DecidableEq, Repr

/-- The release of a dropped session. -/
structure BackgroundRelease where
  policy : RetryPolicy
  request : UnlockRequest
  renewer : Option Renewer
  stage : BackgroundStage := .ready
  deriving DecidableEq, Repr

inductive Lifecycle where
  | owned (session : Session) (activity : Activity)
  | background (release : BackgroundRelease)
  /-- The session is gone, and its renewer comes to its end. -/
  | gone (renewer : Option Renewer)
  deriving DecidableEq, Repr

/-- What an owner learns at the end of an operation. -/
inductive OwnerResult where
  | acquired (outcome : Outcome LockHandle)
  | released (outcome : Outcome Unit)
  deriving DecidableEq, Repr

/-- The two strands of work on a lock. -/
inductive Worker where
  /-- The owner, and after it the background release. -/
  | holder
  | renewer
  deriving DecidableEq, Repr

/-- What happens to a session. -/
inductive Event where
  | acquire (a : Acquisition)
  | release
  /-- The owner no longer waits for what is under way. -/
  | abandon
  /-- The owner lets go of the session, and with it of what is under way. -/
  | drop (canRunInBackground : Bool)
  /-- The answer to a call under way arrives. -/
  | answer (a : Answer)
  /-- A worker may go on. -/
  | wake (w : Worker)
  deriving DecidableEq, Repr

/-- The call that gives back a lock. -/
def unlockInvocation (policy : RetryPolicy) (request : UnlockRequest) : Invocation UnlockRequest :=
  { policy, operation := .unlock, request }

/-! ## The owner -/

namespace Session

/-- The owner begins an acquisition. -/
def startAcquire (s : Session) (a : Acquisition) : Step Lifecycle OwnerResult :=
  match s.begin a with
  | .error e => { next := .owned s .resting, result := some (.acquired (.error e)) }
  | .ok s =>
    let run := Run.start { policy := s.policy, operation := a.operation, request := a.request }
    { next := .owned s (.acquiring a run), sent := some a.request }

/-- Sends the call that gives the lock back. Without a handle there is no
telling which lock. -/
def sendUnlock (s : Session) (renewal : Option ClientError) : Step Lifecycle OwnerResult :=
  match s.handle with
  | some h =>
    let request : UnlockRequest := ⟨h.name, h.secret⟩
    { next := .owned s (.unlocking renewal (.start (unlockInvocation s.policy request)))
      sent := some (.unlock request) }
  | none =>
    { next := .owned { s with state := .released } .resting
      result := some (.released (.error (.invalidState "held session without a handle"))) }

/-- Gives the lock back once the renewer has ended; until then waits for it. -/
def awaitRenewer (s : Session) : Step Lifecycle OwnerResult :=
  match s.renewer with
  | none => s.sendUnlock none
  | some r =>
    let j := r.join
    match j.result with
    | none => .stay (.owned s .stopping)
    | some (.ok ()) => (sendUnlock { s with renewer := none } none).after j.log
    | some (.error e) => (sendUnlock { s with renewer := none } (some e)).after j.log
    | some (.crash text) =>
      { next := .owned { s with renewer := some j.next } .resting
        result := some (.released (.crash text)) }

/-- The owner begins a release; without a lock to give back there
is nothing to do. -/
def startRelease (s : Session) : Step Lifecycle OwnerResult :=
  if s.owesUnlock then
    awaitRenewer { s with state := .releasing, renewer := s.renewer.map (·.cancel) }
  else { next := .owned s .resting, result := some (.released (.ok ())) }

/-- What becomes of a session that is dropped. -/
def drop (s : Session) (canRunInBackground : Bool) : Step Lifecycle OwnerResult :=
  if s.owesUnlock then
    match s.handle with
    | some h =>
      if canRunInBackground then
        { next := .background
            { policy := s.policy, request := ⟨h.name, h.secret⟩, renewer := s.renewer }
          log := [.releasingInBackground h.name] }
      else { next := .gone (s.renewer.map (·.cancel)), log := [.leftToExpire h.name] }
    | none => .stay (.gone (s.renewer.map (·.cancel)))
  else .stay (.gone (s.renewer.map (·.cancel)))

end Session

namespace Activity

/-- The owner waits for an answer. -/
def isWaiting : Activity → Bool
  | .acquiring _ run => run.isWaiting
  | .unlocking _ run => run.isWaiting
  | .resting | .stopping => false

/-- An answer for the owner arrives. -/
def answer (s : Session) (activity : Activity) (now : Nat) (a : Answer) :
    Step Lifecycle OwnerResult :=
  match activity, a with
  | .acquiring a run, .acquired reply =>
    if !run.isWaiting then .stay (.owned s activity)
    else
      match run.answer now reply with
      | (.pausing run, log) => { next := .owned s (.acquiring a run), log }
      | (.finished outcome, log) =>
        let c := s.complete a now outcome
        ((c.lift (.owned · .resting)).returning (c.result.map .acquired)).after log
  | .unlocking renewal run, .unlocked reply =>
    if !run.isWaiting then .stay (.owned s activity)
    else
      match run.answer now reply with
      | (.pausing run, log) => { next := .owned s (.unlocking renewal run), log }
      | (.finished outcome, log) =>
        let c := s.concludeRelease run.request.name renewal outcome
        ((c.lift (.owned · .resting)).returning (c.result.map .released)).after log
  | _, _ => .stay (.owned s activity)

/-- The owner goes on, as far as the time allows. -/
def wake (s : Session) (activity : Activity) (now : Nat) : Step Lifecycle OwnerResult :=
  match activity with
  | .resting => .stay (.owned s .resting)
  | .acquiring a run =>
    match run.resume? now with
    | some run => { next := .owned s (.acquiring a run), sent := some run.request }
    | none => .stay (.owned s activity)
  | .stopping => s.awaitRenewer
  | .unlocking renewal run =>
    match run.resume? now with
    | some run => { next := .owned s (.unlocking renewal run), sent := some (.unlock run.request) }
    | none => .stay (.owned s activity)

/-- From when on `wake` does something. -/
def dueAt (s : Session) : Activity → Option Nat
  | .resting => none
  | .acquiring _ run => run.resumeAt
  | .stopping => if s.renewer.any (·.isAlive) then none else some 0
  | .unlocking _ run => run.resumeAt

end Activity

/-! ## The release of a dropped session -/

namespace BackgroundRelease

/-- The call that gives the lock back is under way. -/
def isWaiting (b : BackgroundRelease) : Bool :=
  match b.stage with
  | .unlocking run => run.isWaiting
  | _ => false

/-- Sends the call that gives the lock back. -/
def sendUnlock (b : BackgroundRelease) : Step BackgroundRelease OwnerResult :=
  { next := { b with
      renewer := none
      stage := .unlocking (.start (unlockInvocation b.policy b.request)) }
    sent := some (.unlock b.request) }

/-- Gives the lock back once the renewer has ended; until then waits for it.
A renewer that broke down takes the release with it. -/
def awaitRenewer (b : BackgroundRelease) : Step BackgroundRelease OwnerResult :=
  match b.renewer with
  | none => b.sendUnlock
  | some r =>
    let j := r.join
    match j.result with
    | none => .stay { b with stage := .stopping }
    | some (.ok ()) => b.sendUnlock.after j.log
    | some (.error e) => b.sendUnlock.after (j.log ++ [.renewalHadFailed b.request.name e])
    | some (.crash _) => .stay { b with renewer := none, stage := .done }

/-- Goes on, as far as the time allows. -/
def wake (b : BackgroundRelease) (now : Nat) : Step BackgroundRelease OwnerResult :=
  match b.stage with
  | .ready => awaitRenewer { b with renewer := b.renewer.map (·.cancel) }
  | .stopping => b.awaitRenewer
  | .unlocking run =>
    match run.resume? now with
    | some run =>
      { next := { b with stage := .unlocking run }, sent := some (.unlock run.request) }
    | none => .stay b
  | .done => .stay b

/-- What is logged of the end of the call that gives the lock back. -/
def farewell (name : String) : Outcome UnlockResponse → List LogEvent
  | .ok response => if response.unlocked then [.lockReleased name] else [.unlockRefused name]
  | .error e => [.unlockFailed name e]
  | .crash _ => []

/-- The answer to the call that gives the lock back arrives. -/
def answer (b : BackgroundRelease) (now : Nat) (reply : Reply UnlockResponse) :
    Step BackgroundRelease OwnerResult :=
  match b.stage with
  | .unlocking run =>
    if !run.isWaiting then .stay b
    else
      match run.answer now reply with
      | (.pausing run, log) => { next := { b with stage := .unlocking run }, log }
      | (.finished outcome, log) =>
        { next := { b with stage := .done }, log := log ++ farewell b.request.name outcome }
  | _ => .stay b

/-- From when on `wake` does something. -/
def dueAt (b : BackgroundRelease) : Option Nat :=
  match b.stage with
  | .ready => some 0
  | .stopping => if b.renewer.any (·.isAlive) then none else some 0
  | .unlocking run => run.resumeAt
  | .done => none

end BackgroundRelease

/-! ## The whole -/

namespace Lifecycle

/-- The life of a fresh session. -/
def new (policy : RetryPolicy) (autoRefresh : Bool) : Lifecycle :=
  .owned { policy, autoRefresh } .resting

/-- What the owner knows of its lock. -/
def handle? : Lifecycle → Option LockHandle
  | .owned s _ => s.handle
  | .background _ | .gone _ => none

def renewer? : Lifecycle → Option Renewer
  | .owned s _ => s.renewer
  | .background b => b.renewer
  | .gone r => r

/-- The same life with another state of its renewer. -/
def setRenewer (l : Lifecycle) (r : Renewer) : Lifecycle :=
  match l with
  | .owned s activity => .owned { s with renewer := some r } activity
  | .background b => .background { b with renewer := some r }
  | .gone _ => .gone (some r)

/-- A step of the renewer, seen from the whole. -/
def onRenewer (l : Lifecycle) (f : Renewer → Step Renewer Unit) : Step Lifecycle OwnerResult :=
  match l.renewer? with
  | some r => ((f r).lift l.setRenewer).silent
  | none => .stay l

/-- What one event does. -/
def step (l : Lifecycle) (now : Nat) : Event → Step Lifecycle OwnerResult
  | .acquire a =>
    match l with
    | .owned s .resting => s.startAcquire a
    | _ => .stay l
  | .release =>
    match l with
    | .owned s .resting => s.startRelease
    | _ => .stay l
  | .abandon =>
    match l with
    | .owned s _ => .stay (.owned s .resting)
    | _ => .stay l
  | .drop canRunInBackground =>
    match l with
    | .owned s _ => s.drop canRunInBackground
    | _ => .stay l
  | .answer (.refreshed reply) => l.onRenewer (·.answer now reply)
  | .answer a =>
    match l, a with
    | .owned s activity, a => activity.answer s now a
    | .background b, .unlocked reply => (b.answer now reply).lift .background
    | _, _ => .stay l
  | .wake .renewer => l.onRenewer (·.wake now)
  | .wake .holder =>
    match l with
    | .owned s activity => activity.wake s now
    | .background b => (b.wake now).lift .background
    | .gone _ => .stay l

/-- A call of the worker is under way. -/
def isWaiting (l : Lifecycle) : Worker → Bool
  | .renewer => l.renewer?.any (·.isWaiting)
  | .holder =>
    match l with
    | .owned _ activity => activity.isWaiting
    | .background b => b.isWaiting
    | .gone _ => false

/-- From when on `wake` does something for the worker. -/
def dueAt (l : Lifecycle) : Worker → Option Nat
  | .renewer => l.renewer?.bind (·.dueAt)
  | .holder =>
    match l with
    | .owned s activity => activity.dueAt s
    | .background b => b.dueAt
    | .gone _ => none

/-- Nothing will ever happen again. -/
def isOver : Lifecycle → Bool
  | .owned _ _ => false
  | .background b => b.stage == .done && !b.renewer.any (·.isAlive)
  | .gone r => !r.any (·.isAlive)

end Lifecycle

end DistLock
