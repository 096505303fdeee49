import DistLock.Grpc.Call
import DistLock.Simulation.Machine

/-!
# Conversations

Runs a machine of a client against a peer until it has its result. Calls
are answered at once, and time jumps from one moment at which something
is due to the next.

An `Exchange` is one use of a channel, a bare call or an operation of a
client; `Exchange.all` makes several of them, one after the other,
through the same channel.
-/

namespace DistLock.Grpc

open Simulation

structure Conversation (β : Type) where
  channel : Channel
  peer : Peer
  now : Nat := 0
  machine : Machine β
  /-- The requests that are not answered yet. -/
  calls : List (Worker × Request) := []
  /-- What the server saw, the last request first. -/
  seen : List HttpRequest := []
  /-- The handle with which the body of a scope began. -/
  entry : Option LockHandle := none

namespace Conversation

variable {β : Type}

/-- Carries out a step of the machine. -/
def commit (c : Conversation β) (who : Worker) (s : Step (Machine β) (MachineResult β)) :
    Conversation β × Option (MachineResult β) :=
  let calls := c.calls.filter fun (w, _) => s.next.isWaiting w
  let entry := match s.result with
    | some (.scoped (.entered handle)) => some handle
    | _ => c.entry
  ({ c with machine := s.next, calls := calls ++ s.sent.toList.map (who, ·), entry }, s.result)

/-- The worker that has something to do next, and when. -/
def nextDue? (c : Conversation β) : Option (Nat × Worker) :=
  match c.machine.dueAt .holder, c.machine.dueAt .renewer with
  | some t, some u => if u < t then some (u, .renewer) else some (t, .holder)
  | some t, none => some (t, .holder)
  | none, some u => some (u, .renewer)
  | none, none => none

/-- Runs until there is a result, for so many rounds at most. -/
def run : (rounds : Nat) → Conversation β → Conversation β × Option (MachineResult β)
  | 0, c => (c, none)
  | rounds + 1, c =>
    let next := match c.calls with
      | (who, r) :: calls =>
        let (peer, seen, a) := c.peer.call c.channel r
        let c := { c with peer, calls, seen := seen.toList ++ c.seen }
        some (c.commit who (c.machine.answer c.now a))
      | [] =>
        c.nextDue?.map fun (due, who) =>
          let c := { c with now := max c.now due }
          c.commit who (c.machine.wake c.now who)
    match next with
    | none => (c, none)
    | some (c, some r) => if r.isIntermediate then run rounds c else (c, some r)
    | some (c, none) => run rounds c

/-- Begins a machine with its first step, and runs it. -/
def hold (rounds : Nat) (channel : Channel) (peer : Peer) (s : Step (Machine β) (MachineResult β)) :
    Conversation β × Option (MachineResult β) :=
  let c : Conversation β := { channel, peer, machine := s.next }
  match c.commit .holder s with
  | (c, some r) => if r.isIntermediate then run rounds c else (c, some r)
  | (c, none) => run rounds c

end Conversation

/-! ## Exchanges -/

/-- One use of a channel. -/
inductive Exchange where
  /-- A call as such, without retries. -/
  | call (r : Request)
  | refresh (name key : String) (lease : UInt32)
  | unlock (name key : String)
  /-- A scope whose body does nothing. -/
  | scope (a : Acquisition)
  deriving DecidableEq, Repr

inductive ExchangeResult where
  | answered (a : Answer)
  /-- What an operation came to, or `none` if it did not end, and the handle
  that a scope had. -/
  | concluded (result : Option (MachineResult Unit)) (entry : Option LockHandle)
  deriving DecidableEq, Repr

/-- What came of one use of a channel. -/
structure ExchangeReport where
  result : ExchangeResult
  /-- What the server saw. -/
  seen : List HttpRequest
  deriving DecidableEq, Repr

namespace Exchange

/-- Uses the channel once; a conversation lasts for so many rounds at most. -/
def perform (rounds : Nat) (channel : Channel) (client : Client) (peer : Peer) :
    Exchange → Peer × ExchangeReport
  | .call r =>
    let (peer, seen, a) := peer.call channel r
    (peer, ⟨.answered a, seen.toList⟩)
  | .refresh name key lease => hold (Machine.ofDirect (client.refreshLock name key lease))
  | .unlock name key => hold (Machine.ofDirect (client.unlock name key))
  | .scope a =>
    let s := Scoped.start client.policy client.autoRefresh a 0
    hold (Machine.ofScoped { ending := .returns () } 0 0 s)
where
  hold (s : Step (Machine Unit) (MachineResult Unit)) : Peer × ExchangeReport :=
    let (c, result) := Conversation.hold rounds channel peer s
    (c.peer, ⟨.concluded result c.entry, c.seen.reverse⟩)

/-- Uses the channel several times. -/
def all (rounds : Nat) (channel : Channel) (client : Client) :
    (peer : Peer) → List Exchange → List ExchangeReport
  | _, [] => []
  | peer, x :: xs =>
    let (peer, report) := x.perform rounds channel client peer
    report :: all rounds channel client peer xs

end Exchange

end DistLock.Grpc
