import DistLock.Simulation.Machine

/-!
# A world on a virtual clock

Client, service and clock together. Time stands still while anything can be
done, and then jumps to the next moment at which something is due. At each
moment the one whose result is waited for goes first; when it can go no
further, all others do what they can.

* `World.attend` lets one worker do one thing;
* `World.pursue` runs the world until a machine has a result, or a
  time limit is reached;
* `World.pass` lets time go by.

All three loops are given more rounds than any of them needs.
-/

namespace DistLock.Simulation

/-- A call that is under way at the service. -/
structure PendingCall where
  machine : Nat
  worker : Worker
  request : Request
  stage : CallStage
  deriving DecidableEq, Repr

/-- A call as the service saw it arrive. -/
structure SeenCall where
  request : Request
  arrivedAt : Nat
  /-- The number of renewals that were under way. -/
  refreshesInFlight : Nat
  deriving DecidableEq, Repr

structure World (β : Type) where
  now : Nat := 0
  client : Client
  server : Server := {}
  /-- What happens at the service later. -/
  agenda : List (Nat × ServerAct) := []
  machines : List (Nat × Machine β) := []
  /-- The number of machines there ever were. -/
  created : Nat := 0
  /-- The sessions that somebody owns, and their machines. -/
  sessions : List (String × Nat) := []
  renewers : List (String × Nat) := []
  calls : List PendingCall := []
  /-- The calls that arrived since the last report, the last one first. -/
  seen : List SeenCall := []
  /-- What was logged since the last report, the last event first. -/
  log : List LogEvent := []
  /-- When, and with what handle, the body of the last scope began. -/
  entry : Option (Nat × LockHandle) := none

namespace World

variable {β : Type}

def machine? (w : World β) (id : Nat) : Option (Machine β) := w.machines.lookup id

def setMachine (w : World β) (id : Nat) (t : Machine β) : World β :=
  { w with machines := w.machines.map fun (i, old) => if i = id then (i, t) else (i, old) }

/-- A call arrives at the service. -/
def receive (w : World β) (id : Nat) (who : Worker) (request : Request) : World β :=
  let refreshesInFlight := w.calls.countP (·.request.operation == .refreshLock)
  let (server, stage) := w.server.receive w.now request.operation
  { w with
    server
    calls := w.calls ++ [{ machine := id, worker := who, request, stage }]
    seen := { request, arrivedAt := w.now, refreshesInFlight } :: w.seen }

/-- Calls for which their caller no longer waits are no longer under way. -/
def forgetCalls (w : World β) (id : Nat) (t : Machine β) : World β :=
  { w with calls := w.calls.filter fun c => c.machine != id || t.isWaiting c.worker }

/-- The body of a scope begins, and does its part at the service. -/
def enter (w : World β) (body : Body β) (handle : LockHandle) : World β :=
  { w with entry := some (w.now, handle), server := body.acts.foldl Server.act w.server }

/-- Carries out a step of a machine. -/
def commit (w : World β) (id : Nat) (who : Worker) (s : Step (Machine β) (MachineResult β)) :
    World β × Option (MachineResult β) :=
  let w := (w.setMachine id s.next).forgetCalls id s.next
  let w := { w with log := s.log.reverse ++ w.log }
  let w := s.sent.elim w (w.receive id who)
  match s.next, s.result with
  | .scoped _ body _, some (.scoped (.entered handle)) => (w.enter body handle, s.result)
  | _, _ => (w, s.result)

/-- A new machine begins with a step. -/
def spawn (w : World β) (s : Step (Machine β) (MachineResult β)) :
    Nat × World β × Option (MachineResult β) :=
  let id := w.created
  let w := { w with machines := w.machines ++ [(id, s.next)], created := id + 1 }
  (id, w.commit id .holder s)

/-- When the service does something for a call of the worker. -/
def replyDue (w : World β) (id : Nat) (t : Machine β) (who : Worker) : Option Nat :=
  if t.isWaiting who then
    (w.calls.find? fun c => c.machine == id && c.worker == who).map (·.stage.due)
  else none

/-- The service deals with a call of which something is due. -/
def serve (w : World β) (id : Nat) (t : Machine β) (who : Worker) :
    World β × Option (MachineResult β) :=
  let isThis (c : PendingCall) := c.machine == id && c.worker == who
  match w.calls.find? isThis with
  | none => (w, none)
  | some c =>
    match w.server.advance w.now c.request c.stage with
    | (server, .inl stage) =>
      ({ w with
          server
          calls := w.calls.map fun c => if isThis c then { c with stage } else c }, none)
    | (server, .inr a) =>
      let w := { w with server, calls := w.calls.eraseP isThis }
      w.commit id who (t.answer w.now a)

/-- Something is due by now. -/
def isDue (w : World β) (due : Option Nat) : Bool := due.any (· ≤ w.now)

/-- Lets a worker do one thing, if there is something to do for it now. It
looks at what it can do itself before it looks for an answer. -/
def attend (w : World β) (id : Nat) (who : Worker) : Option (World β × Option (MachineResult β)) :=
  match w.machine? id with
  | none => none
  | some t =>
    if w.isDue (t.dueAt who) then some (w.commit id who (t.wake w.now who))
    else if w.isDue (w.replyDue id t who) then some (w.serve id t who)
    else none

/-- All workers but the holder of the main machine. A renewer goes before
its holder: the release of a dropped session begins after everything that
was due when it was dropped. -/
def others (w : World β) (main : Option Nat) : List (Nat × Worker) :=
  w.machines.flatMap fun (id, _) =>
    if main = some id then [(id, .renewer)] else [(id, .renewer), (id, .holder)]

/-- Does one thing that is due now and is not for the main machine. -/
def attendOthers (w : World β) (main : Option Nat) : Option (World β) :=
  match w.agenda.find? (·.1 ≤ w.now) with
  | some (_, act) =>
    some { w with agenda := w.agenda.eraseP (·.1 ≤ w.now), server := w.server.act act }
  | none => (w.others main).findSome? fun (id, who) => (w.attend id who).map (·.1)

/-- More rounds than a loop needs. -/
def rounds : Nat := Nat.pow 2 62

/-- Does everything that can be done now, except for the main machine. -/
def settleWithin : (fuel : Nat) → (main : Option Nat) → World β → World β
  | 0, _, w => w
  | fuel + 1, main, w =>
    match w.attendOthers main with
    | some w => settleWithin fuel main w
    | none => w

def settle (w : World β) (main : Option Nat) : World β := settleWithin rounds main w

/-- The moments at which something is due for a machine. -/
def duesOf (w : World β) (id : Nat) (t : Machine β) : List Nat :=
  [Worker.holder, .renewer].flatMap fun who =>
    (t.dueAt who).toList ++ (w.replyDue id t who).toList

/-- The next moment at which something is due. -/
def nextDue (w : World β) : Option Nat :=
  (w.agenda.map (·.1) ++ w.machines.flatMap fun (id, t) => w.duesOf id t).min?

/-- Time jumps to what is due next, but not beyond the limit. -/
def jump (w : World β) (limit : Nat) : World β :=
  { w with now := min limit (max w.now (w.nextDue.getD limit)) }

/-- Runs until the main machine has its result, or the limit is reached. -/
def pursueWithin : (fuel : Nat) → (main limit : Nat) → World β → World β × Option (MachineResult β)
  | 0, _, _, w => (w, none)
  | fuel + 1, main, limit, w =>
    match w.attend main .holder with
    | some (w, some r) => if r.isIntermediate then pursueWithin fuel main limit w else (w, some r)
    | some (w, none) => pursueWithin fuel main limit w
    | none =>
      if limit ≤ w.now then (w, none)
      else pursueWithin fuel main limit ((w.settle (some main)).jump limit)

/-- Runs until the main machine, which just began, has its result, or a
sleep of so many milliseconds is over, when it is abandoned. -/
def pursue (w : World β) (main : Nat) (result : Option (MachineResult β)) (timeout : Nat) :
    World β × Option (MachineResult β) :=
  match result with
  | some r =>
    if r.isIntermediate then go w else (w, some r)
  | none => go w
where
  go (w : World β) : World β × Option (MachineResult β) :=
    match pursueWithin rounds main (w.now + sleepTime timeout) w with
    | (w, some r) => (w, some r)
    | (w, none) =>
      match w.machine? main with
      | some t => ((w.commit main .holder (t.abandon w.now)).1, none)
      | none => (w, none)

/-- Runs until the limit is reached. -/
def passWithin : (fuel : Nat) → (limit : Nat) → World β → World β
  | 0, _, w => w
  | fuel + 1, limit, w =>
    if limit ≤ w.now then w else passWithin fuel limit ((w.settle none).jump limit)

/-- Sleeps for so many milliseconds, as far as that is possible. -/
def pass (w : World β) (duration : Nat) : World β :=
  passWithin rounds (w.now + sleepTime duration) w

end World

end DistLock.Simulation
