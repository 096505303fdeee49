import DistLock.Proofs.Renewal
import DistLock.Proofs.Retry.Course

/-!
# How a renewer ends

A renewer ends by itself when a renewal comes to anything but the word of
the service that the lock is held, and leaves an error then.

* The error is what the final reply to the renewal comes to
  (`Reply.renewalError?`, `error?_of_answer`); so it says that there was no
  answer, or that the answer was no (`isRemote_of_renewalError?`).
* A renewer that was asked to end keeps the error that it had left before,
  and leaves none if it had not ended by itself (`error?_wake`,
  `error?_answer_cancelled`).
* Who takes over its end takes over its error (`join_ended`).
-/

namespace DistLock

/-- The error with which a renewal ends on its final reply, unless
the lock is held. -/
def Reply.renewalError? (reply : Reply LockResponse) : Option ClientError :=
  match reply.outcome with
  | .ok r => if r.locked then none else some .notLocked
  | .error e => some e
  | .crash _ => none

/-- The error says that there was no answer, or that the answer was no. -/
def ClientError.IsRemote (e : ClientError) : Prop :=
  (∃ status, e = .unanswered status) ∨ e.isServerDecision = true

theorem Reply.isRemote_of_outcome {ρ : Type} [HasDecision ρ] {reply : Reply ρ} {e : ClientError}
    (h : reply.outcome = .error e) : e.IsRemote := by
  cases hr : reply with
  | response r =>
      cases hd : decision r with
      | none => simp [hr, outcome, hd] at h
      | some d => exact .inr ((Reply.isServerDecision_iff h).2 ⟨r, d, hr, hd⟩)
  | failure status =>
      rw [hr] at h
      exact .inl ⟨status, (Outcome.error.inj h).symm⟩
  | crash text => simp [hr, outcome] at h

theorem Reply.isRemote_of_renewalError? {reply : Reply LockResponse} {e : ClientError}
    (h : reply.renewalError? = some e) : e.IsRemote := by
  unfold renewalError? at h
  cases ho : reply.outcome with
  | ok r =>
      simp only [ho, Option.ite_none_left_eq_some, Option.some.injEq] at h
      exact .inr (h.2 ▸ rfl)
  | error error =>
      simp only [ho, Option.some.injEq] at h
      exact Reply.isRemote_of_outcome (h ▸ ho)
  | crash text => simp [ho] at h

/-- The reply to a renewal says that the lock is held, or comes to an error. -/
theorem Reply.isLocked_or_error {reply : Reply LockResponse} (h : ∀ text, reply ≠ .crash text) :
    reply.isLocked = true ∨ ∃ e, reply.renewalError? = some e := by
  unfold isLocked renewalError?
  cases ho : reply.outcome with
  | ok r => cases r.locked <;> simp
  | error e => exact .inr ⟨e, rfl⟩
  | crash text => exact absurd (Reply.eq_crash_of_outcome ho) (h text)

namespace Renewer

variable {r : Renewer} {now : Nat} {reply : Reply LockResponse} {e : ClientError}

/-- The error with which it ended by itself. -/
def error? (r : Renewer) : Option ClientError :=
  match r.stage with
  | .ended error => error
  | _ => none

@[simp] theorem cancel_error? : r.cancel.error? = r.error? := rfl

theorem error?_of_isAlive (h : r.isAlive = true) : r.error? = none := by
  unfold isAlive at h
  split at h
  · cases h
  · cases h
  · rename_i hst _
    unfold error?
    split
    · exact absurd ‹_› (hst _)
    · rfl

/-- Time alone gives no renewer an error. -/
theorem error?_wake : (r.wake now).next.error? = r.error? := by
  have hs := r.wakes_of_wake now
  generalize r.wake now = s at hs ⊢
  cases hs with
  | idle _ => rfl
  | stops halive _ => exact (error?_of_isAlive halive).symm
  | schedules _ hst | begins _ hst _ | retries _ hst _ =>
      exact (error?_of_isAlive (by simp [isAlive, hst])).symm

/-- An answer that comes too late gives no renewer an error. -/
theorem error?_answer_cancelled (hc : r.cancelled = true) :
    (r.answer now reply).next.error? = r.error? := by
  have hs := r.answers_of_answer now reply
  generalize r.answer now reply = s at hs ⊢
  cases hs with
  | idle _ => rfl
  | stops hw _ =>
      obtain ⟨run, hst⟩ := exists_run_of_isWaiting hw
      exact (error?_of_isAlive (by simp [isAlive, hst])).symm
  | pauses hl _ _ | renewed hl _ | failed hl _ _ | broke hl _ => simp [isListening, hc] at hl

/-- A renewer has no error but that of the reply which ended it. -/
theorem error?_of_answer (h : (r.answer now reply).next.error? = some e) :
    r.error? = some e ∨ reply.renewalError? = some e := by
  unfold answer at h
  split at h
  · split at h
    · exact .inl h
    split at h
    · cases h
    split at h
    · cases h
    rename_i outcome log hrun
    right
    rw [Run.answer_finished hrun] at h
    unfold Reply.renewalError?
    cases ho : reply.outcome with
    | ok response =>
        simp only [ho, conclude, Step.after] at h
        split at h
        · cases h
        · simpa [*, finish, error?] using h
    | error error => simpa [ho, conclude, Step.after, finish, error?] using h
    | crash text => simp [ho, conclude, Step.after, Step.stay, error?] at h
  · exact .inl h

/-- Who takes over the end of a renewer takes over its error. -/
theorem join_ended {error : Option ClientError} (hst : r.stage = .ended error)
    (hj : r.joined = false) : r.join.result = some (error.elim (.ok ()) .error) := by
  simp [join, hj, hst]

end Renewer

end DistLock
