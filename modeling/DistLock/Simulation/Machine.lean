import DistLock.Client
import DistLock.Scoped
import DistLock.Simulation.Server

/-!
# Machines

The machines of the client under one roof: whatever can be under way in a
simulation is a `Machine` with two workers, of which each waits for an
answer, for a time, or for the other.
-/

namespace DistLock.Simulation

/-- How the body of a scope ends. -/
inductive BodyEnd (β : Type) where
  | returns (value : β)
  | crashes (text : String)
  deriving DecidableEq, Repr

/-- The body of a scope: what it does to the service, how long it takes,
and how it ends. -/
structure Body (β : Type) where
  acts : List ServerAct := []
  duration : Nat := 0
  ending : BodyEnd β
  deriving DecidableEq, Repr

inductive Machine (β : Type) where
  | session (life : Lifecycle)
  /-- A scope with its body, and when the body ends. -/
  | scoped (s : Scoped β) (body : Body β) (bodyDue : Nat)
  | direct (call : DirectCall)
  /-- A renewer without a session, and whether somebody waits for its end. -/
  | renewal (r : Renewer) (stopping : Bool)
  deriving DecidableEq, Repr

inductive MachineResult (β : Type) where
  | owner (r : OwnerResult)
  | scoped (r : ScopedResult β)
  | direct (r : DirectResult)
  | stopped (outcome : Outcome Unit)
  deriving DecidableEq, Repr

/-- The holder's work goes on after this result. -/
def MachineResult.isIntermediate {β : Type} : MachineResult β → Bool
  | .scoped (.entered _) => true
  | _ => false

namespace Machine

variable {β : Type}

def ofSession (s : Step Lifecycle OwnerResult) : Step (Machine β) (MachineResult β) :=
  (s.lift .session).returning (s.result.map .owner)

/-- The body begins when the scope is entered. -/
def ofScoped (body : Body β) (bodyDue now : Nat) (s : Step (Scoped β) (ScopedResult β)) :
    Step (Machine β) (MachineResult β) :=
  let bodyDue := match s.result with
    | some (.entered _) => now + sleepTime body.duration
    | _ => bodyDue
  (s.lift (.scoped · body bodyDue)).returning (s.result.map .scoped)

def ofDirect (s : Step DirectCall DirectResult) : Step (Machine β) (MachineResult β) :=
  (s.lift .direct).returning (s.result.map .direct)

/-- Waits for the end of a renewer, or takes it over. -/
def ofStopping (r : Renewer) : Step (Machine β) (MachineResult β) :=
  let j := r.join
  (j.lift (.renewal · j.result.isNone)).returning (j.result.map .stopped)

/-- A call of the worker is under way. -/
def isWaiting : Machine β → Worker → Bool
  | .session life, w => life.isWaiting w
  | .scoped s _ _, w => s.life.isWaiting w
  | .direct d, .holder => d.isWaiting
  | .direct _, .renewer => false
  | .renewal _ _, .holder => false
  | .renewal r _, .renewer => r.isWaiting

/-- From when on `wake` does something for the worker. -/
def dueAt : Machine β → Worker → Option Nat
  | .session life, w => life.dueAt w
  | .scoped s _ bodyDue, w =>
    match w, s.stage with
    | .holder, .inside => some bodyDue
    | w, _ => s.life.dueAt w
  | .direct d, .holder => d.dueAt
  | .direct _, .renewer => none
  | .renewal r stopping, .holder =>
    if stopping && (r.joined || !r.isAlive) then some 0 else none
  | .renewal r _, .renewer => r.dueAt

/-- The answer to the call of a worker arrives. -/
def answer (t : Machine β) (now : Nat) (a : Answer) : Step (Machine β) (MachineResult β) :=
  match t with
  | .session life => ofSession (life.step now (.answer a))
  | .scoped s body bodyDue => ofScoped body bodyDue now (s.step now (.answer a))
  | .direct d => ofDirect (d.answer now a)
  | .renewal r stopping =>
    match a with
    | .refreshed reply => ((r.answer now reply).lift (.renewal · stopping)).silent
    | _ => .stay t

/-- A worker goes on. -/
def wake (t : Machine β) (now : Nat) (w : Worker) : Step (Machine β) (MachineResult β) :=
  match t with
  | .session life => ofSession (life.step now (.wake w))
  | .scoped s body bodyDue =>
    ofScoped body bodyDue now <|
      match w, s.stage, body.ending with
      | .holder, .inside, .returns value => s.step now (.bodyReturned value)
      | .holder, .inside, .crashes text => s.step now (.bodyCrashed text)
      | w, _, _ => s.step now (.wake w)
  | .direct d => ofDirect (d.wake now)
  | .renewal r stopping =>
    match w with
    | .holder => if stopping then ofStopping r else .stay t
    | .renewer => ((r.wake now).lift (.renewal · stopping)).silent

/-- Whoever waits for the holder no longer does. -/
def abandon (t : Machine β) (now : Nat) : Step (Machine β) (MachineResult β) :=
  match t with
  | .session life => ofSession (life.step now .abandon)
  | .scoped s body bodyDue => ofScoped body bodyDue now (s.step now .abandon)
  | .direct _ => .stay (.direct .over)
  | .renewal r _ => .stay (.renewal r false)

/-- Nothing will ever happen again. -/
def isOver : Machine β → Bool
  | .session life => life.isOver
  | .scoped s _ _ => s.life.isOver
  | .direct d => d == .over
  | .renewal r stopping => !stopping && !r.isAlive

end Machine

end DistLock.Simulation
