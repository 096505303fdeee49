import DistLock.Retry

/-!
# What comes of a reply

A reply to an attempt is final, or the run pauses before its next attempt:

* what a final reply comes to depends on the reply alone
  (`Run.answer_finished`);
* only a status can make a run pause, and it goes on with the request it had
  (`Run.answer_pausing`);
* the errors of replies are statuses and decisions of the service, never
  errors that the client itself finds (`Reply.outcome_ne_invalidState`).
-/

namespace DistLock

/-- A decision of the service is no complaint about the state of the client. -/
theorem ClientError.ofDecision_ne_invalidState (d : RpcError) (text : String) :
    ClientError.ofDecision d ≠ .invalidState text := by
  unfold ClientError.ofDecision
  split <;> simp

namespace Reply

variable {ρ : Type} [HasDecision ρ]

/-- What a reply comes to if no attempt follows it. -/
def outcome : Reply ρ → Outcome ρ
  | .response r =>
    match decision r with
    | none => .ok r
    | some d => .error (.ofDecision d)
  | .failure status => .error (.unanswered status)
  | .crash text => .crash text

theorem outcome_ne_invalidState (reply : Reply ρ) (text : String) :
    reply.outcome ≠ .error (.invalidState text) := by
  cases reply with
  | response r =>
      cases h : decision r with
      | none => simp [outcome, h]
      | some d =>
          simp only [outcome, h, ne_eq, Outcome.error.injEq]
          exact ClientError.ofDecision_ne_invalidState d text
  | failure status => simp [outcome]
  | crash text => simp [outcome]

/-- Only a call that broke down comes to a breakdown. -/
theorem eq_crash_of_outcome {reply : Reply ρ} {text : String}
    (h : reply.outcome = .crash text) : reply = .crash text := by
  cases reply with
  | response r => cases hd : decision r <;> simp [outcome, hd] at h
  | failure status => simp [outcome] at h
  | crash text' =>
      simp only [outcome, Outcome.crash.injEq] at h
      rw [h]

/-- The key that a reply to a request for a lock grants. -/
def key? (reply : Reply LockResponse) : Option String :=
  match reply.outcome with
  | .ok r => if r.locked then some r.key else none
  | .error _ | .crash _ => none

end Reply

namespace Run

variable {α ρ : Type} [HasDecision ρ] {run run' : Run α} {now : Nat} {reply : Reply ρ}
  {outcome : Outcome ρ} {log : List LogEvent}

theorem answer_finished (h : run.answer now reply = (.finished outcome, log)) :
    outcome = reply.outcome := by
  cases reply with
  | response r =>
      cases hd : decision r <;> simp [answer, Invocation.settle, hd] at h <;>
        simp [Reply.outcome, hd, h.1]
  | failure status =>
      simp only [answer, Invocation.settle] at h
      split at h
      · rename_i o log' hs
        split at hs
        · simp_all [Reply.outcome]
        · split at hs <;> simp_all [Reply.outcome]
      · simp at h
  | crash text =>
      simp [answer, Invocation.settle] at h
      simp [Reply.outcome, h.1]

theorem answer_pausing (h : run.answer now reply = (.pausing run', log)) :
    run'.request = run.request ∧ run'.isWaiting = false ∧ ∃ status, reply = .failure status := by
  cases reply with
  | response r => cases hd : decision r <;> simp [answer, Invocation.settle, hd] at h
  | failure status =>
      simp only [answer, Invocation.settle] at h
      split at h
      · simp at h
      · rename_i next log' hs
        split at hs
        · simp at hs
        · split at hs
          · simp at hs
          · simp only [Prod.mk.injEq, Progress.pausing.injEq, Verdict.again.injEq] at h hs
            obtain ⟨rfl, -⟩ := h
            obtain ⟨rfl, -⟩ := hs
            exact ⟨rfl, rfl, status, rfl⟩
  | crash text => simp [answer, Invocation.settle] at h

/-- A run goes on only when its pause is over. -/
theorem resume?_eq_some (h : run.resume? now = some run') :
    run.isWaiting = false ∧ run'.request = run.request ∧ run'.isWaiting = true := by
  unfold resume? at h
  cases hdue : run.resumeAt with
  | none => simp [hdue] at h
  | some due =>
      simp only [hdue, Option.ite_none_right_eq_some, Option.some.injEq] at h
      obtain ⟨-, rfl⟩ := h
      exact ⟨by simp [isWaiting, hdue], rfl, rfl⟩

end Run

end DistLock
