import DistLock.Client
import DistLock.Proofs.Parties.Party

/-!
# Callers

Whoever makes calls to the service: the owner of a session, a scope, or a
call without a session. A client opens any number of them (`Opening.step`),
and from then on each is a machine of its own (`Caller.step`), to which
answers come like anything else.

Several callers beside each other are a table of them, and a `Deed` is what
one of them does. A run is a list of deeds, so it is any interleaving, with
any answers: what holds of all runs holds whatever the service does.
-/

namespace DistLock

/-- What a client can begin. -/
inductive Opening where
  | session
  | scope (a : Acquisition)
  | refresh (name key : String) (lease : UInt32)
  | unlock (name key : String)
  deriving DecidableEq, Repr

/-- One who makes calls. -/
inductive Caller (β : Type) where
  | session (life : Lifecycle)
  | scope (s : Scoped β)
  | direct (d : DirectCall)
  deriving DecidableEq, Repr

/-- What happens to a caller. -/
inductive CallerEvent (β : Type) where
  | session (e : Event)
  | scope (e : ScopedEvent β)
  /-- A call without a session may go on. -/
  | wake
  /-- Nobody waits any more for a call without a session. -/
  | abandon
  | answer (a : Answer)
  deriving DecidableEq, Repr

/-- What one learns from a caller. -/
inductive CallerResult (β : Type) where
  | owner (r : OwnerResult)
  | scope (r : ScopedResult β)
  | direct (r : DirectResult)
  deriving DecidableEq, Repr

def ScopedEvent.isAnswer {β : Type} : ScopedEvent β → Bool
  | .answer _ => true
  | _ => false

namespace Caller

variable {β : Type}

def ofSession (s : Step Lifecycle OwnerResult) : Step (Caller β) (CallerResult β) :=
  (s.lift .session).returning (s.result.map .owner)

def ofScope (s : Step (Scoped β) (ScopedResult β)) : Step (Caller β) (CallerResult β) :=
  (s.lift .scope).returning (s.result.map .scope)

def ofDirect (s : Step DirectCall DirectResult) : Step (Caller β) (CallerResult β) :=
  (s.lift .direct).returning (s.result.map .direct)

/-- The answer to a call arrives. -/
def answer (c : Caller β) (now : Nat) (a : Answer) : Step (Caller β) (CallerResult β) :=
  match c with
  | .session life => ofSession (life.step now (.answer a))
  | .scope s => ofScope (s.step now (.answer a))
  | .direct d => ofDirect (d.answer now a)

/-- What one event does. Answers come as such, and not as events of a
session or a scope. -/
def step (c : Caller β) (now : Nat) : CallerEvent β → Step (Caller β) (CallerResult β)
  | .session e =>
    match c with
    | .session life => if e.isAnswer then .stay c else ofSession (life.step now e)
    | _ => .stay c
  | .scope e =>
    match c with
    | .scope s => if e.isAnswer then .stay c else ofScope (s.step now e)
    | _ => .stay c
  | .wake =>
    match c with
    | .direct d => ofDirect (d.wake now)
    | _ => .stay c
  | .abandon =>
    match c with
    | .direct _ => .stay (.direct .over)
    | _ => .stay c
  | .answer a => c.answer now a

end Caller

/-- A client begins something. -/
def Opening.step {β : Type} (o : Opening) (client : Client) (now : Nat) :
    Step (Caller β) (CallerResult β) :=
  match o with
  | .session => .stay (.session client.session)
  | .scope a => Caller.ofScope (Scoped.start client.policy client.autoRefresh a now)
  | .refresh name key lease => Caller.ofDirect (client.refreshLock name key lease)
  | .unlock name key => Caller.ofDirect (client.unlock name key)

/-! ## Callers beside each other -/

/-- What a caller does, or what happens to it. -/
inductive Act (β : Type) where
  | opens (client : Client) (o : Opening)
  | meets (e : CallerEvent β)
  deriving DecidableEq, Repr

/-- An act of one of several callers, and when it is done. -/
structure Deed (β : Type) where
  who : Nat
  now : Nat
  act : Act β
  deriving DecidableEq, Repr

/-- The callers there are. -/
abbrev Callers (β : Type) := Nat → Option (Caller β)

namespace Callers

variable {β : Type}

/-- Nobody is there yet. -/
def nobody : Callers β := fun _ => none

/-- What a deed does, if it fits: a caller is opened once, and nothing
happens to it before. -/
def step? (w : Callers β) (d : Deed β) : Option (Step (Caller β) (CallerResult β)) :=
  match w d.who, d.act with
  | none, .opens client o => some (o.step client d.now)
  | some c, .meets e => some (c.step d.now e)
  | _, _ => none

/-- The callers after a deed. -/
def next (w : Callers β) (d : Deed β) : Callers β :=
  match w.step? d with
  | some s => Function.update w d.who (some s.next)
  | none => w

/-- The request that is sent with a deed. -/
def sent (w : Callers β) (d : Deed β) : Option Request := (w.step? d).bind (·.sent)

/-- Where a run leads. -/
def after (w : Callers β) (ds : List (Deed β)) : Callers β := ds.foldl next w

@[simp] theorem after_nil (w : Callers β) : w.after [] = w := rfl

@[simp] theorem after_concat (w : Callers β) (ds : List (Deed β)) (d : Deed β) :
    w.after (ds ++ [d]) = (w.after ds).next d := by
  simp [after]

end Callers

end DistLock
