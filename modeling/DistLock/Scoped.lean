import DistLock.Lifecycle

/-!
# Scoped locks

A scope takes a lock, runs a body with its handle, and gives the lock back
before it returns the value of the body. The body runs whenever the
acquisition succeeds, with a handle that says whether the lock is held. If
the body breaks down, or the whole is abandoned, the session is dropped,
which releases the lock in the background.
-/

namespace DistLock

/-- How far a scope is. -/
inductive ScopedStage (β : Type) where
  | entering
  | inside
  | leaving (value : β)
  | left
  deriving DecidableEq, Repr

/-- A lock around a body that returns a `β`. -/
structure Scoped (β : Type) where
  life : Lifecycle
  stage : ScopedStage β := .entering
  deriving DecidableEq, Repr

/-- What happens to a scope. -/
inductive ScopedEvent (β : Type) where
  /-- An answer arrives, or a worker may go on. -/
  | answer (a : Answer)
  | wake (w : Worker)
  /-- The body returned. -/
  | bodyReturned (value : β)
  | bodyCrashed (text : String)
  | abandon
  deriving DecidableEq, Repr

/-- What a scope comes to. -/
inductive ScopedResult (β : Type) where
  /-- The body begins. -/
  | entered (handle : LockHandle)
  | finished (outcome : Outcome β)
  deriving DecidableEq, Repr

namespace Scoped

variable {β : Type}

/-- The scope is left, and its session is dropped. -/
def leave (l : Lifecycle) (now : Nat) (result : Option (ScopedResult β)) :
    Step (Scoped β) (ScopedResult β) :=
  ((l.step now (.drop true)).lift fun life => { life, stage := .left }).returning result

/-- What a step of the session means for the scope. -/
def follow (stage : ScopedStage β) (now : Nat) (s : Step Lifecycle OwnerResult) :
    Step (Scoped β) (ScopedResult β) :=
  let ending (outcome : Outcome β) : Step (Scoped β) (ScopedResult β) :=
    { (leave s.next now (some (.finished outcome))).after s.log with sent := s.sent }
  match stage, s.result with
  | .entering, some (.acquired (.ok _)) =>
    match s.next.handle? with
    | some handle =>
      (s.lift fun life => { life, stage := .inside }).returning (some (.entered handle))
    | none => ending (.error (.invalidState "session finished acquiring without a handle"))
  | .entering, some (.acquired (.error e)) => ending (.error e)
  | .entering, some (.acquired (.crash text)) => ending (.crash text)
  | .leaving value, some (.released (.ok ())) => ending (.ok value)
  | .leaving _, some (.released (.error e)) => ending (.error e)
  | .leaving _, some (.released (.crash text)) => ending (.crash text)
  | _, _ => (s.lift fun life => { life, stage }).silent

/-- A scope with a fresh session begins. -/
def start (policy : RetryPolicy) (autoRefresh : Bool) (a : Acquisition) (now : Nat) :
    Step (Scoped β) (ScopedResult β) :=
  follow .entering now ((Lifecycle.new policy autoRefresh).step now (.acquire a))

/-- What one event does. -/
def step (s : Scoped β) (now : Nat) : ScopedEvent β → Step (Scoped β) (ScopedResult β)
  | .answer a => follow s.stage now (s.life.step now (.answer a))
  | .wake w => follow s.stage now (s.life.step now (.wake w))
  | .bodyReturned value =>
    match s.stage with
    | .inside => follow (.leaving value) now (s.life.step now .release)
    | _ => .stay s
  | .bodyCrashed text =>
    match s.stage with
    | .inside => leave s.life now (some (.finished (.crash text)))
    | _ => .stay s
  | .abandon =>
    match s.stage with
    | .left => .stay s
    | _ => leave s.life now none

end Scoped

end DistLock
