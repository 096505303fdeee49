import DistLock.Service.LockTable

/-!
# A service to rehearse with

A lock table behind a script. The next scripted reply for an operation is
played first, after its delay: it answers the call, lets it break down, or
passes it on to the table. Without a scripted reply the table answers at
once, except that a request for a held lock may have to wait.
-/

namespace DistLock.Simulation

/-- A prepared reply to one call. -/
structure Scripted where
  /-- Milliseconds from the call to the reply. -/
  delay : Nat := 0
  /-- The reply, or `none` to pass the call on to the table. -/
  answer : Option Answer
  deriving DecidableEq, Repr

/-- What happens at the service without a call. -/
inductive ServerAct where
  /-- Somebody holds a lock with the given key. -/
  | hold (name key : String)
  /-- The lease of a lock runs out. -/
  | expire (name : String)
  /-- Replies are prepared, behind those that there already are. -/
  | script (operation : Operation) (replies : List Scripted)
  deriving DecidableEq, Repr

structure Server where
  table : LockTable := {}
  script : List (Operation × Scripted) := []
  deriving DecidableEq, Repr

/-- How far a call is at the service. -/
inductive CallStage where
  /-- The reply follows at `due`. -/
  | scripted (due : Nat) (answer : Option Answer)
  /-- The lock is held, and the table is asked again at `due`, for the
  last time or not. -/
  | waiting (due : Nat) (last : Bool)
  deriving DecidableEq, Repr

/-- When something happens to the call. -/
def CallStage.due : CallStage → Nat
  | .scripted due _ => due
  | .waiting due _ => due

namespace Server

/-- Milliseconds between two looks at a held lock when there is no
limit to the wait. -/
def pollInterval : Nat := 50

def act (s : Server) : ServerAct → Server
  | .hold name key => { s with table := s.table.hold name key }
  | .expire name => { s with table := s.table.remove name }
  | .script operation replies => { s with script := s.script ++ replies.map (operation, ·) }

/-- A call arrives, and takes the next scripted reply for its operation. -/
def receive (s : Server) (now : Nat) (operation : Operation) : Server × CallStage :=
  match s.script.find? (·.1 == operation) with
  | some (_, r) =>
    ({ s with script := s.script.eraseP (·.1 == operation) },
      .scripted (now + sleepTime r.delay) r.answer)
  | none => (s, .scripted now none)

/-- Grants a free lock; for one that is held the caller comes back later. -/
def lockOr (s : Server) (name : String) (later : Sum CallStage Answer) :
    Server × Sum CallStage Answer :=
  if s.table.isFree name then
    let (table, response) := s.table.grant name
    ({ s with table }, .inr (.acquired (.response response)))
  else (s, later)

/-- Asks the table. -/
def consult (s : Server) (now : Nat) : Request → Server × Sum CallStage Answer
  | .lock r =>
    s.lockOr r.name <| .inl <|
      match r.waitTimeout with
      | some seconds => .waiting (now + sleepTime (1000 * seconds.toInt.toNat)) true
      | none => .waiting (now + pollInterval) false
  | .tryLock r =>
    let (table, response) := s.table.tryLock r.name
    ({ s with table }, .inr (.acquired (.response response)))
  | .refreshLock r => (s, .inr (.refreshed (.response (s.table.refresh r.name r.key))))
  | .unlock r =>
    let (table, response) := s.table.unlock r.name r.key
    ({ s with table }, .inr (.unlocked (.response response)))

/-- What happens to a call at its due time: it gets further, or
it is answered. -/
def advance (s : Server) (now : Nat) (request : Request) :
    CallStage → Server × Sum CallStage Answer
  | .scripted _ (some answer) => (s, .inr answer)
  | .scripted _ none => s.consult now request
  | .waiting _ last =>
    s.lockOr request.name <|
      if last then .inr (.acquired (.response (LockTable.waitTimedOut request.name)))
      else .inl (.waiting (now + pollInterval) false)

end Server

end DistLock.Simulation
