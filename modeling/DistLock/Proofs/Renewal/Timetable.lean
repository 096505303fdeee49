import Mathlib.Logic.Relation
import DistLock.Proofs.Renewal.Ending
import DistLock.Session

/-!
# The timetable of a renewer

When a renewer is to call, for every policy and lease and whatever
comes of its calls.

* `Renewal` is a renewer with a clock and what has come of it, and
  `Renewal.Next` what can happen next: time passes until something is due,
  the renewer goes on, the reply to its call arrives, or somebody stops it.
* `Course` says which renewals were granted and when. The first begins after
  the interval of the lease, or after the longest sleep if that is shorter,
  and each later one so long after the end of the one before it; each is one
  invocation (`Invocation.EndsWith`).
* `Standing` says where that leaves a renewer that nobody stopped: what it has
  sent and when, what it counts, in a word of 64 bits, and what it does next.
-/

namespace DistLock

namespace Prospect

variable {ρ : Type}

/-- What lies ahead after the first `c` attempts. -/
def drop (o : Prospect ρ) (c : Nat) : Prospect ρ :=
  ⟨fun j => o.delay (c + j), fun j => o.reply (c + j)⟩

end Prospect

/-! ## A renewer and its clock -/

/-- A renewer with a clock: what it has sent and when, and what those who
stopped it were told. -/
structure Renewal where
  now : Nat
  renewer : Renewer
  calls : List (Nat × Request) := []
  stops : List (Outcome Unit) := []

namespace Renewal

/-- The renewer may go on. -/
def wake (w : Renewal) : Renewal :=
  let s := w.renewer.wake w.now
  { w with renewer := s.next, calls := w.calls ++ s.sent.toList.map (w.now, ·) }

/-- The reply to the last call arrives. -/
def answer (o : Prospect LockResponse) (w : Renewal) : Renewal :=
  { w with renewer := (w.renewer.answer w.now (o.reply (w.calls.length - 1))).next }

/-- Somebody asks the renewer to end, and is told how it ended as
soon as it has. -/
def stop (w : Renewal) : Renewal :=
  let j := w.renewer.cancel.join
  { w with renewer := j.next, stops := w.stops ++ j.result.toList }

/-- When the reply to the call under way arrives. -/
def answeredAt (o : Prospect LockResponse) (w : Renewal) : Option Nat :=
  if w.renewer.isWaiting then
    w.calls.getLast?.map fun call => call.1 + o.delay (w.calls.length - 1)
  else none

/-- What can happen next. -/
inductive Next (o : Prospect LockResponse) (w : Renewal) : Renewal → Prop
  /-- Time passes, but not beyond what is due. -/
  | passes {later} : w.now ≤ later → (∀ t, w.renewer.dueAt = some t → later ≤ max w.now t) →
      (∀ t, w.answeredAt o = some t → later ≤ max w.now t) → Next o w { w with now := later }
  | wakes : Next o w w.wake
  | answered : w.answeredAt o = some w.now → Next o w (w.answer o)
  | stopped : Next o w w.stop

/-- What can come of a renewer that begins at `start`. -/
def Reachable (o : Prospect LockResponse) (start : Nat) (r : Renewer) : Renewal → Prop :=
  Relation.ReflTransGen (Next o) { now := start, renewer := r }

end Renewal

/-! ## The timetable -/

namespace Renewer

/-- When the next renewal begins, when the last one ended at `since`: after
the interval of the lease, or after the longest sleep. -/
def nextAfter (r : Renewer) (since : Nat) : Nat :=
  since + min (1000 * refreshInterval r.lease) longestSleep

/-- When attempt `j` of the renewal that follows is made. -/
def attemptAt (r : Renewer) (o : Prospect LockResponse) (since j : Nat) : Nat :=
  o.dueAt (r.nextAfter since) r.policy.pause j

/-- When the reply to attempt `j` of the renewal that follows arrives. -/
def replyAt (r : Renewer) (o : Prospect LockResponse) (since j : Nat) : Nat :=
  o.answeredAt (r.nextAfter since) r.policy.pause j

/-- The first `n` calls of the renewal that follows the end of another
one at `since`. -/
def callsAfter (r : Renewer) (o : Prospect LockResponse) (since n : Nat) : List (Nat × Request) :=
  (r.invocation.attempts o (r.nextAfter since) n).map fun call => (call.1, .refreshLock call.2)

/-- `Course r o start n calls since`: a renewer that began at `start` had
`n` renewals granted with these calls, the last of them at `since`. -/
inductive Course (r : Renewer) (o : Prospect LockResponse) (start : Nat) :
    Nat → List (Nat × Request) → Nat → Prop
  | begun : Course r o start 0 [] start
  | renewed {n calls since k} : Course r o start n calls since →
      r.invocation.EndsWith (o.drop calls.length) (r.nextAfter since) k →
      (o.reply (calls.length + k)).isLocked = true →
      Course r o start (n + 1) (calls ++ r.callsAfter (o.drop calls.length) since (k + 1))
        (r.replyAt (o.drop calls.length) since k)

/-- The renewer after `n` renewals, the last of them at `since`. Its counter
starts anew after the largest number. -/
def asleep (r : Renewer) (n since : Nat) : Renewer :=
  { r with phase := .scheduled, counter := .ofNat n, stage := .sleeping (r.nextAfter since) }

/-- The renewer in the next renewal, with `j` repetitions begun, the last of
them to be made at `due`, or made already. -/
def inCall (r : Renewer) (n j : Nat) (due : Option Nat) : Renewer :=
  { r with
    phase := .renewing
    counter := .ofNat n
    stage := .refreshing ⟨r.invocation.repeated j, due⟩ }

/-- The renewer after `n` renewals and one that failed. -/
def failed (r : Renewer) (n : Nat) (e : ClientError) : Renewer :=
  { r with phase := .stopped, counter := .ofNat n, stage := .ended (some e) }

/-- Where a renewer stands that nobody stopped. -/
inductive Standing (r : Renewer) (o : Prospect LockResponse) (start : Nat) : Renewal → Prop
  /-- It has not begun. -/
  | ready : Standing r o start ⟨start, r, [], []⟩
  /-- The next renewal lies ahead. -/
  | ahead {n calls since now} : Course r o start n calls since →
      since ≤ now → now ≤ r.nextAfter since →
      Standing r o start ⟨now, r.asleep n since, calls, []⟩
  /-- Attempt `j` of a renewal is under way. -/
  | calling {n calls since j now} : Course r o start n calls since →
      r.invocation.Repeats (o.drop calls.length) j →
      r.attemptAt (o.drop calls.length) since j ≤ now →
      now ≤ r.replyAt (o.drop calls.length) since j →
      Standing r o start ⟨now, r.inCall n j none,
        calls ++ r.callsAfter (o.drop calls.length) since (j + 1), []⟩
  /-- Attempt `j` of a renewal is to be repeated. -/
  | pausing {n calls since j now} : Course r o start n calls since →
      r.invocation.Repeats (o.drop calls.length) (j + 1) →
      r.replyAt (o.drop calls.length) since j ≤ now →
      now ≤ r.attemptAt (o.drop calls.length) since (j + 1) →
      Standing r o start ⟨now, r.inCall n (j + 1)
          (some (r.attemptAt (o.drop calls.length) since (j + 1))),
        calls ++ r.callsAfter (o.drop calls.length) since (j + 1), []⟩
  /-- A renewal came to an error, and none follows it. -/
  | ended {n calls since k now e} : Course r o start n calls since →
      r.invocation.EndsWith (o.drop calls.length) (r.nextAfter since) k →
      (o.reply (calls.length + k)).renewalError? = some e →
      r.replyAt (o.drop calls.length) since k ≤ now →
      Standing r o start ⟨now, r.failed n e,
        calls ++ r.callsAfter (o.drop calls.length) since (k + 1), []⟩

variable {r : Renewer} {o : Prospect LockResponse} {start since now n j : Nat}
  {calls : List (Nat × Request)} {w w' : Renewal}

/-! ## Times and calls -/

@[simp] theorem attemptAt_zero (r : Renewer) (o : Prospect LockResponse) (since : Nat) :
    r.attemptAt o since 0 = r.nextAfter since := Prospect.dueAt_zero _ _ _

theorem replyAt_eq (r : Renewer) (o : Prospect LockResponse) (since j : Nat) :
    r.replyAt o since j = r.attemptAt o since j + o.delay j := o.answeredAt_eq _ _ _

theorem attemptAt_succ (r : Renewer) (o : Prospect LockResponse) (since j : Nat) :
    r.attemptAt o since (j + 1) = r.replyAt o since j + r.policy.pause :=
  o.dueAt_after_answer _ _ _

theorem attemptAt_le_replyAt (r : Renewer) (o : Prospect LockResponse) (since j : Nat) :
    r.attemptAt o since j ≤ r.replyAt o since j := o.dueAt_le_answeredAt _ _ _

theorem replyAt_le_attemptAt (r : Renewer) (o : Prospect LockResponse) (since j : Nat) :
    r.replyAt o since j ≤ r.attemptAt o since (j + 1) := o.answeredAt_le_dueAt _ _ _

theorem callsAfter_concat (r : Renewer) (o : Prospect LockResponse) (since n : Nat) :
    r.callsAfter o since (n + 1) = r.callsAfter o since n ++
      [(r.attemptAt o since n, .refreshLock r.request)] := by
  simp only [Renewer.callsAfter, Invocation.attempts_concat, List.map_append]
  rfl

@[simp] theorem length_callsAfter (r : Renewer) (o : Prospect LockResponse) (since n : Nat) :
    (r.callsAfter o since n).length = n := by
  simp [Renewer.callsAfter]

/-- The reply to the last call of a renewal arrives as long after it as
that call takes. -/
theorem answeredAt_calls (hw : w.renewer.isWaiting = true)
    (hcalls : w.calls = calls ++ r.callsAfter (o.drop calls.length) since (j + 1)) :
    w.answeredAt o =
      some (r.replyAt (o.drop calls.length) since j) := by
  have hlength : w.calls.length - 1 = calls.length + j := by
    simp [hcalls]
  rw [Renewal.answeredAt, if_pos hw, hlength, replyAt_eq]
  simp [hcalls, callsAfter_concat, Prospect.drop]

/-- The reply that arrives is the one to the last call. -/
theorem answer_calls (o : Prospect LockResponse) (now : Nat) (x r : Renewer)
    (calls : List (Nat × Request)) (since j : Nat) :
    Renewal.answer o
        ⟨now, x, calls ++ r.callsAfter (o.drop calls.length) since (j + 1), []⟩ =
      ⟨now, (x.answer now ((o.drop calls.length).reply j)).next,
        calls ++ r.callsAfter (o.drop calls.length) since (j + 1), []⟩ := by
  have hindex : (calls ++ r.callsAfter (o.drop calls.length) since (j + 1)).length - 1 =
      calls.length + j := by simp
  rw [Renewal.answer, hindex]
  rfl

/-! ## What a renewer does -/

section Turn

variable {i next : Invocation RefreshLockRequest} {run : Run RefreshLockRequest} {due : Nat}
  {reply : Reply LockResponse} {log : List LogEvent} {e : ClientError}

theorem wake_asleep_early (hc : r.cancelled = false) (h : now < r.nextAfter since) :
    (r.asleep n since).wake now = .stay (r.asleep n since) := by
  simp [Renewer.wake, asleep, hc, Nat.not_le_of_lt h]

theorem wake_asleep (hc : r.cancelled = false) (h : r.nextAfter since ≤ now) :
    (r.asleep n since).wake now =
      { next := r.inCall n 0 none, sent := some (.refreshLock r.request) } := by
  simp only [Renewer.wake, asleep, hc, Bool.and_false, Bool.false_eq_true, if_false, if_pos h]
  simp [attempt, inCall, hc, Run.start, Run.request, invocation, request]

theorem wake_inCall (hc : r.cancelled = false) :
    (r.inCall n j none).wake now = .stay (r.inCall n j none) := by
  simp [Renewer.wake, inCall, hc, Run.resume?]

theorem wake_inPause_early (hc : r.cancelled = false) (h : now < due) :
    (r.inCall n j (some due)).wake now = .stay (r.inCall n j (some due)) := by
  simp [Renewer.wake, inCall, hc, Run.resume?, Nat.not_le_of_lt h]

theorem wake_inPause (hc : r.cancelled = false) (h : due ≤ now) :
    (r.inCall n j (some due)).wake now =
      { next := r.inCall n j none, sent := some (.refreshLock r.request) } := by
  simp [Renewer.wake, inCall, hc, Run.resume?, h, attempt, Run.request, Invocation.repeated,
    invocation]

theorem wake_failed : (r.failed n e).wake now = .stay (r.failed n e) :=
  Renewer.wake_over rfl

theorem dueAt_asleep (hc : r.cancelled = false) :
    (r.asleep n since).dueAt = some (r.nextAfter since) := by
  simp [Renewer.dueAt, asleep, isAlive, hc]

theorem dueAt_inPause (hc : r.cancelled = false) : (r.inCall n j (some due)).dueAt = some due := by
  simp [Renewer.dueAt, inCall, isAlive, hc]

theorem dueAt_inCall (hc : r.cancelled = false) : (r.inCall n j none).dueAt = none := by
  simp [Renewer.dueAt, inCall, isAlive, hc]

/-- A reply that is a reason to try again is followed by the
pause of the policy. -/
theorem answer_inCall_again (hc : r.cancelled = false)
    (hs : (r.invocation.repeated j).settle reply = (.again (r.invocation.repeated j).next, log)) :
    ((r.inCall n j none).answer now reply).next =
      r.inCall n (j + 1) (some (now + r.policy.pause)) := by
  have hpolicy : (r.invocation.repeated (j + 1)).policy = r.policy := rfl
  simp [Renewer.answer, inCall, hc, Run.isWaiting, Run.answer, hs, Invocation.repeated_next,
    hpolicy]

/-- The word of the service that the lock is held is followed by the
interval of the lease. -/
theorem answer_inCall_locked (hc : r.cancelled = false)
    (hs : (r.invocation.repeated j).settle reply = (.finished reply.outcome, log))
    (h : reply.isLocked = true) :
    ((r.inCall n j none).answer now reply).next = r.asleep (n + 1) now := by
  rw [Reply.isLocked] at h
  cases ho : reply.outcome with
  | ok response =>
      rw [ho] at h hs
      simp [Renewer.answer, inCall, hc, Run.isWaiting, Run.answer, hs, conclude, h, Step.after,
        schedule, asleep, nextAfter, pause, refreshPause, sleepTime]
  | error e | crash text => simp [ho] at h

/-- Anything else ends the renewer. -/
theorem answer_inCall_failed (hc : r.cancelled = false)
    (hs : (r.invocation.repeated j).settle reply = (.finished reply.outcome, log))
    (h : reply.renewalError? = some e) :
    ((r.inCall n j none).answer now reply).next = r.failed n e := by
  rw [Reply.renewalError?] at h
  cases ho : reply.outcome with
  | ok response =>
      simp only [ho, Option.ite_none_left_eq_some, Option.some.injEq] at h
      rw [ho] at hs
      simp [Renewer.answer, inCall, hc, Run.isWaiting, Run.answer, hs, conclude, h, Step.after,
        finish, failed]
  | error error =>
      simp only [ho, Option.some.injEq] at h
      rw [ho] at hs
      simp [Renewer.answer, inCall, hc, Run.isWaiting, Run.answer, hs, conclude, h, Step.after,
        finish, failed]
  | crash text => simp [ho] at h

end Turn

end Renewer

end DistLock
