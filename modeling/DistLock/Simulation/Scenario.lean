import DistLock.Simulation.World

/-!
# Scenarios

A scenario is a list of orders to a world: sessions, renewers and direct
calls on one side, the service on the other. After each order everything is
done that can be done at that moment, and then a report is made.
-/

namespace DistLock.Simulation

/-- What is to be done next. Sessions and renewers go by names; one that is
not there can be dropped, which does nothing. Operations that may take time
are abandoned after `timeout` milliseconds. -/
inductive Order (β : Type) where
  | openSession (id : String) (autoRefresh : Option Bool)
  | acquire (id : String) (a : Acquisition) (timeout : Nat)
  | release (id : String) (timeout : Nat)
  | drop (id : String) (canRunInBackground : Bool)
  /-- A session that is there only if the acquisition succeeds. -/
  | lock (id : String) (a : Acquisition) (timeout : Nat)
  | scope (a : Acquisition) (body : Body β) (timeout : Nat)
  | refresh (name key : String) (lease : UInt32) (timeout : Nat)
  | unlock (name key : String) (timeout : Nat)
  | startRenewer (id name key : String) (lease : UInt32)
  | stopRenewer (id : String) (timeout : Nat)
  | dropRenewer (id : String)
  | sleep (duration : Nat)
  | listHeld
  /-- Now, or later in the background. -/
  | server (act : ServerAct) (delay : Option Nat)

inductive OrderResult (β : Type) where
  | nothing
  | noSession
  | noRenewer
  | abandoned
  | finished (r : MachineResult β)
  | held (entries : List (String × String))

/-- What is to be seen after an order. -/
structure Report (β : Type) where
  time : Nat
  result : OrderResult β
  /-- When, and with what handle, the body of a scope began. -/
  entry : Option (Nat × LockHandle)
  calls : List SeenCall
  log : List LogEvent
  sessions : List (String × Session)
  renewers : List (String × Renewer)

namespace World

variable {β : Type}

/-- The result of an order for which a machine was pursued. -/
def orderResult : World β × Option (MachineResult β) → World β × OrderResult β
  | (w, some r) => (w, .finished r)
  | (w, none) => (w, .abandoned)

/-- Somebody lets go of a session. -/
def dropMachine (w : World β) (id : Nat) (canRunInBackground : Bool) : World β :=
  match w.machine? id with
  | some (.session life) =>
    (w.commit id .holder (Machine.ofSession (life.step w.now (.drop canRunInBackground)))).1
  | _ => w

/-- A session goes by a name from now on; one that had it is dropped. -/
def nameSession (w : World β) (name : String) (id : Nat) : World β :=
  let earlier := w.sessions.lookup name
  let w := { w with sessions := (name, id) :: w.sessions.filter (·.1 != name) }
  earlier.elim w (w.dropMachine · true)

/-- Somebody lets go of a renewer, which ends it. -/
def dropRenewerMachine (w : World β) (id : Nat) : World β :=
  match w.machine? id with
  | some (.renewal r _) => w.setMachine id (.renewal r.cancel false)
  | _ => w

def nameRenewer (w : World β) (name : String) (id : Nat) : World β :=
  let earlier := w.renewers.lookup name
  let w := { w with renewers := (name, id) :: w.renewers.filter (·.1 != name) }
  earlier.elim w w.dropRenewerMachine

/-- An event for a session that goes by a name, pursued to its result. -/
def onSession (w : World β) (name : String) (e : Event) (timeout : Nat) :
    World β × OrderResult β :=
  match w.sessions.lookup name with
  | none => (w, .noSession)
  | some id =>
    match w.machine? id with
    | some (.session life) =>
      let (w, result) := w.commit id .holder (Machine.ofSession (life.step w.now e))
      orderResult (w.pursue id result timeout)
    | _ => (w, .noSession)

/-- An acquisition with a fresh session, which is kept only if the
acquisition succeeds. -/
def lockFresh (w : World β) (name : String) (a : Acquisition) (timeout : Nat) :
    World β × OrderResult β :=
  let (id, w, result) := w.spawn (Machine.ofSession (w.client.session.step w.now (.acquire a)))
  match w.pursue id result timeout with
  | (w, some (.owner (.acquired (.ok handle)))) =>
    (w.nameSession name id, .finished (.owner (.acquired (.ok handle))))
  | (w, result) => orderResult (w.dropMachine id true, result)

/-- A fresh machine, pursued to its result. -/
def pursueFresh (w : World β) (s : Step (Machine β) (MachineResult β)) (timeout : Nat) :
    World β × OrderResult β :=
  let (id, w, result) := w.spawn s
  orderResult (w.pursue id result timeout)

def perform (w : World β) : Order β → World β × OrderResult β
  | .openSession name autoRefresh =>
    let life := Lifecycle.new w.client.policy (autoRefresh.getD w.client.autoRefresh)
    let (id, w, _) := w.spawn (.stay (.session life))
    (w.nameSession name id, .nothing)
  | .acquire name a timeout => w.onSession name (.acquire a) timeout
  | .release name timeout => w.onSession name .release timeout
  | .drop name canRunInBackground =>
    match w.sessions.lookup name with
    | none => (w, .nothing)
    | some id =>
      let w := { w with sessions := w.sessions.filter (·.1 != name) }
      (w.dropMachine id canRunInBackground, .nothing)
  | .lock name a timeout => w.lockFresh name a timeout
  | .scope a body timeout =>
    let s := Scoped.start w.client.policy w.client.autoRefresh a w.now
    w.pursueFresh (Machine.ofScoped body 0 w.now s) timeout
  | .refresh name key lease timeout =>
    w.pursueFresh (Machine.ofDirect (w.client.refreshLock name key lease)) timeout
  | .unlock name key timeout =>
    w.pursueFresh (Machine.ofDirect (w.client.unlock name key)) timeout
  | .startRenewer id name key lease =>
    let (r, log) := Renewer.start w.client.policy name key lease
    let (machine, w, _) := w.spawn { next := .renewal r false, log }
    (w.nameRenewer id machine, .nothing)
  | .stopRenewer id timeout =>
    match w.renewers.lookup id with
    | none => (w, .noRenewer)
    | some machine =>
      match w.machine? machine with
      | some (.renewal r _) =>
        let (w, result) := w.commit machine .holder (Machine.ofStopping r.cancel)
        orderResult (w.pursue machine result timeout)
      | _ => (w, .noRenewer)
  | .dropRenewer id =>
    match w.renewers.lookup id with
    | none => (w, .nothing)
    | some machine =>
      ({ w with renewers := w.renewers.filter (·.1 != id) }.dropRenewerMachine machine, .nothing)
  | .sleep duration => (w.pass duration, .nothing)
  | .listHeld => (w, .held w.server.table.entries)
  | .server act none => ({ w with server := w.server.act act }, .nothing)
  | .server act (some delay) =>
    ({ w with agenda := w.agenda ++ [(w.now + sleepTime delay, act)] }, .nothing)

/-- Machines that are over and have no name are of no interest any more. -/
def tidy (w : World β) : World β :=
  let named (id : Nat) := w.sessions.any (·.2 == id) || w.renewers.any (·.2 == id)
  { w with machines := w.machines.filter fun (id, t) => named id || !t.isOver }

def visibleSessions (w : World β) : List (String × Session) :=
  w.sessions.filterMap fun (name, id) =>
    match w.machine? id with
    | some (.session (.owned s _)) => some (name, s)
    | _ => none

def visibleRenewers (w : World β) : List (String × Renewer) :=
  w.renewers.filterMap fun (name, id) =>
    match w.machine? id with
    | some (.renewal r _) => some (name, r)
    | _ => none

/-- Carries out an order and reports. -/
def obey (w : World β) (order : Order β) : World β × Report β :=
  let (w, result) := w.perform order
  let w := (w.settle none).tidy
  ({ w with seen := [], log := [], entry := none },
    { time := w.now
      result
      entry := w.entry
      calls := w.seen.reverse
      log := w.log.reverse
      sessions := w.visibleSessions
      renewers := w.visibleRenewers })

/-- Carries out one order after the other. -/
def play (w : World β) : List (Order β) → List (Report β)
  | [] => []
  | order :: orders =>
    let (w, report) := w.obey order
    report :: play w orders

end World

end DistLock.Simulation
