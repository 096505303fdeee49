import Mathlib.Logic.Relation
import DistLock.Proofs.Parties.Party

/-!
# Parties and their service

Any number of parties use one service. Their requests are on their way for
as long as it takes: one may be served before its caller learns anything,
after its caller has given up, or never, and whoever waits for an answer
may be told that there is none. The service grants a name only when it is
free, and with a key that was never issued, and frees it only for a request
that gives back the name with its key (`Ledger.Serves`); what else it
answers is up to it.

`Cluster.Next` is what can happen next, and `Cluster.Reachable`
what can come of it.
-/

namespace DistLock

/-! ## The service -/

/-- What a service knows: the key of each lock that is held, and to whom a
key was issued. -/
structure Ledger where
  held : String → Option String
  issuedTo : String → Option Nat

namespace Ledger

/-- The lock is held, with a key that is issued to the party `i`. -/
def grant (t : Ledger) (i : Nat) (name key : String) : Ledger :=
  { held := Function.update t.held name (some key)
    issuedTo := Function.update t.issuedTo key (some i) }

/-- The lock is held by nobody. -/
def free (t : Ledger) (name : String) : Ledger :=
  { t with held := Function.update t.held name none }

/-- `Serves t i q a t'`: to the request `q` of the party `i`, the
service answers `a`. -/
inductive Serves (t : Ledger) (i : Nat) : Request → Answer → Ledger → Prop
  | grants {q reply key} : q.asks = true → t.held q.name = none → t.issuedTo key = none →
      (reply.key? = none ∨ reply.key? = some key) →
      Serves t i q (.acquired reply) (t.grant i q.name key)
  | declines {q reply} : q.asks = true → reply.key? = none → Serves t i q (.acquired reply) t
  | refreshes {r reply} : Serves t i (.refreshLock r) (.refreshed reply) t
  | frees {u reply} : t.held u.name = some u.key →
      Serves t i (.unlock u) (.unlocked reply) (t.free u.name)
  | keeps {u reply} : Serves t i (.unlock u) (.unlocked reply) t

variable {t : Ledger} {name name' key key' : String}

/-- A lock that is held is not the one that is granted. -/
theorem held_grant (hfree : t.held name = none) (h : t.held name' = some key') (i : Nat) :
    (t.grant i name key).held name' = some key' := by
  have hne : name' ≠ name := by
    rintro rfl
    simp [hfree] at h
  simpa [grant, hne] using h

theorem issuedTo_grant {i : Nat} (hfresh : t.issuedTo key = none) (h : t.issuedTo key' = some i)
    (j : Nat) : (t.grant j name key).issuedTo key' = some i := by
  have hne : key' ≠ key := by
    rintro rfl
    simp [hfresh] at h
  simpa [grant, hne] using h

theorem held_free (h : t.held name' = some key') (hne : name' ≠ name) :
    (t.free name).held name' = some key' := by
  simpa [free, hne] using h

end Ledger

/-! ## The requests -/

/-- A request on its way, and what became of it. -/
structure Call where
  caller : Nat
  request : Request
  /-- What the service answered, also if nobody learns it. -/
  answer : Option Answer := none
  /-- Its caller waits for the answer. -/
  awaited : Bool := true

def Call.ofRequest (i : Nat) (q : Request) : Call := { caller := i, request := q }

/-- Whoever waits for no answer does not wait for the answer to the call. -/
def Call.review (i : Nat) (l : Lifecycle) (c : Call) : Call :=
  if c.caller = i ∧ l.isWaiting c.request.worker = false then { c with awaited := false } else c

/-- A call of which nothing is heard but that there is no answer. -/
inductive Failure where
  | unanswered (status : Status)
  | crashed (text : String)

namespace Failure

def reply {ρ : Type} : Failure → Reply ρ
  | .unanswered status => .failure status
  | .crashed text => .crash text

/-- What the caller is told. -/
def answer (f : Failure) : Request → Answer
  | .lock _ | .tryLock _ => .acquired f.reply
  | .refreshLock _ => .refreshed f.reply
  | .unlock _ => .unlocked f.reply

end Failure

/-! ## The whole -/

/-- Parties that use a service. -/
structure Cluster (β : Type) where
  parties : Nat → Option (Party β)
  /-- The handles of the bodies that run, as they received them. -/
  bodies : Nat → Option LockHandle
  calls : List Call
  table : Ledger

namespace Cluster

variable {β : Type}

/-- No party is there yet; others may hold locks. -/
def start (table : Ledger) : Cluster β := ⟨fun _ => none, fun _ => none, [], table⟩

/-- A step of a party. -/
def commit (w : Cluster β) (i : Nat) (s : Step (Party β) (ScopedResult β)) : Cluster β :=
  { w with
    parties := Function.update w.parties i (some s.next)
    bodies := Function.update w.bodies i (bodyAfter (w.bodies i) s)
    calls := (w.calls ++ (s.sent.map (Call.ofRequest i)).toList).map
      (Call.review i s.next.life) }

/-- The caller of a call is told what came of it. -/
def conclude (w : Cluster β) (k : Nat) (c : Call) : Cluster β :=
  { w with calls := w.calls.set k { c with awaited := false } }

/-- The service is done with a call. -/
def served (w : Cluster β) (k : Nat) (c : Call) (a : Answer) (table : Ledger) : Cluster β :=
  { w with calls := w.calls.set k { c with answer := some a }, table }

/-- What can happen next. -/
inductive Next (w : Cluster β) : Cluster β → Prop
  | begins {i s} : w.parties i = none → Party.Begins s → Next w (w.commit i s)
  | acts {i p e} (now : Nat) : w.parties i = some p → e.isAnswer = false →
      Next w (w.commit i (p.step now e))
  | serves {k c a table} : w.calls[k]? = some c → c.answer = none →
      w.table.Serves c.caller c.request a table →
      Next w (w.served k c a table)
  | delivers {k c a p} (now : Nat) : w.calls[k]? = some c → c.awaited = true →
      c.answer = some a → w.parties c.caller = some p →
      Next w ((w.conclude k c).commit c.caller (p.answer now a))
  | fails {k c p} (f : Failure) (now : Nat) : w.calls[k]? = some c → c.awaited = true →
      w.parties c.caller = some p →
      Next w ((w.conclude k c).commit c.caller (p.answer now (f.answer c.request)))

/-- What can come of a start with the given table. -/
def Reachable (table : Ledger) : Cluster β → Prop :=
  Relation.ReflTransGen Next (start table)

end Cluster

/-! ## What becomes of a call -/

namespace Call

variable {i : Nat} {l : Lifecycle} {c : Call}

@[simp] theorem review_caller : (c.review i l).caller = c.caller := by
  unfold review
  split <;> rfl

@[simp] theorem review_request : (c.review i l).request = c.request := by
  unfold review
  split <;> rfl

@[simp] theorem review_answer : (c.review i l).answer = c.answer := by
  unfold review
  split <;> rfl

/-- A call that is still awaited was, and its caller waits for something. -/
theorem awaited_of_review (h : (c.review i l).awaited = true) : c.awaited = true ∧
    (c.caller = i → l.isWaiting c.request.worker = true) := by
  unfold review at h
  split at h
  · simp at h
  · rename_i hno
    exact ⟨h, fun hi => by simpa [hi] using hno⟩

end Call

end DistLock
