import DistLock.Renewer
import DistLock.Proofs.Retry

/-!
# What a renewer can do

The events of a renewer are that it may go on (`wake`) and that its call is
answered (`answer`). `Wakes` and `Answers` list what it can do then
(`wakes_of_wake`, `answers_of_answer`), and what follows is read off these
lists. Whichever comes:

* a renewer that is over stays as it is (`wake_over`, `answer_over`);
* one that was asked to end sends nothing more (`wake_sent`), and the next
  time it may go on it is over (`wake_cancelled`);
* nothing but the answer to a call breaks it down (`wake_breaksDown`,
  `answer_breaksDown`);
* whether it was asked to end, and whether its end was taken over, is up to
  its owner alone (`wake_flags`, `answer_flags`).
-/

namespace DistLock

/-- The service says that the lock is held. -/
def Reply.isLocked (reply : Reply LockResponse) : Bool :=
  match reply.outcome with
  | .ok r => r.locked
  | .error _ | .crash _ => false

namespace Renewer

variable {r : Renewer} {now : Nat} {reply : Reply LockResponse} {s : Step Renewer Unit}

/-- It broke down, and nobody has taken that over. -/
def isBroken (r : Renewer) : Bool :=
  match r.stage with
  | .crashed _ => !r.joined
  | _ => false

/-- It broke down, taken over or not. -/
def hasCrashed (r : Renewer) : Bool :=
  match r.stage with
  | .crashed _ => true
  | _ => false

/-- Being asked to end breaks nothing down. -/
@[simp] theorem cancel_isBroken : r.cancel.isBroken = r.isBroken := rfl

theorem isAlive_false_of_isBroken (h : r.isBroken = true) : r.isAlive = false := by
  unfold isBroken at h
  split at h
  · simp [isAlive, *]
  · simp at h

theorem hasCrashed_of_isBroken (h : r.isBroken = true) : r.hasCrashed = true := by
  unfold isBroken at h
  split at h
  · simp [hasCrashed, *]
  · simp at h

/-- Only a renewer that is at work has a call under way. -/
theorem isWaiting_false_of_over (h : r.isAlive = false) : r.isWaiting = false := by
  unfold isAlive at h
  split at h
  · simp [isWaiting, *]
  · simp [isWaiting, *]
  · simp at h

/-- Its call is under way, and nobody asked it to end. -/
def isListening (r : Renewer) : Bool := r.isWaiting && !r.cancelled

theorem exists_run_of_isWaiting (h : r.isWaiting = true) : ∃ run, r.stage = .refreshing run := by
  unfold isWaiting at h
  split at h
  · exact ⟨_, ‹_›⟩
  · cases h

/-! ## Going on -/

/-- `Wakes now r s`: a renewer that may go on does `s`. -/
inductive Wakes (now : Nat) (r : Renewer) : Step Renewer Unit → Prop
  /-- Nothing is due. -/
  | idle : (∀ t, r.dueAt = some t → now < t) → Wakes now r (.stay r)
  | stops : r.isAlive = true → r.cancelled = true → Wakes now r (r.finish none)
  | schedules : r.cancelled = false → r.stage = .ready → Wakes now r (.stay (r.schedule now))
  | begins {due} : r.cancelled = false → r.stage = .sleeping due → due ≤ now →
      Wakes now r (r.attempt (.start r.invocation))
  | retries {run run'} : r.cancelled = false → r.stage = .refreshing run →
      run.resume? now = some run' → Wakes now r (r.attempt run')

theorem wakes_of_wake (r : Renewer) (now : Nat) : Wakes now r (r.wake now) := by
  unfold wake
  split
  · rename_i h
    rw [Bool.and_eq_true] at h
    exact .stops h.1 h.2
  rename_i h
  cases hst : r.stage with
  | ready =>
      have hc : r.cancelled = false := by simpa [isAlive, hst] using h
      exact .schedules hc hst
  | sleeping due =>
      have hc : r.cancelled = false := by simpa [isAlive, hst] using h
      by_cases hdue : due ≤ now
      · simpa only [if_pos hdue] using .begins hc hst hdue
      · simp only [if_neg hdue]
        refine .idle fun t ht => ?_
        obtain rfl : due = t := by simpa [dueAt, isAlive, hst, hc] using ht
        exact Nat.lt_of_not_le hdue
  | refreshing run =>
      have hc : r.cancelled = false := by simpa [isAlive, hst] using h
      cases hrun : run.resume? now with
      | some run' => simpa only [hrun] using .retries hc hst hrun
      | none =>
          simp only [hrun]
          refine .idle fun t ht => ?_
          have hpause : run.resumeAt = some t := by simpa [dueAt, isAlive, hst, hc] using ht
          simp only [Run.resume?, hpause, ite_eq_right_iff] at hrun
          exact Nat.lt_of_not_le fun hle => by cases hrun hle
  | ended error | crashed text => exact .idle (by simp [dueAt, isAlive, hst])

theorem wake_over (h : r.isAlive = false) : r.wake now = .stay r := by
  have hs := r.wakes_of_wake now
  generalize r.wake now = s at hs ⊢
  cases hs with
  | idle _ => rfl
  | stops halive _ => exact absurd (h.symm.trans halive) (by simp)
  | schedules _ hst | begins _ hst _ | retries _ hst _ => simp [isAlive, hst] at h

theorem wake_cancelled (hc : r.cancelled = true) : (r.wake now).next.isAlive = false := by
  have hs := r.wakes_of_wake now
  generalize r.wake now = s at hs ⊢
  cases hs with
  | idle hdue =>
      -- to end is always due
      rw [← Bool.not_eq_true]
      intro halive
      have hnow := hdue 0 (by simp [dueAt, hc, show r.isAlive = true from halive])
      exact Nat.not_lt_zero now hnow
  | stops _ _ => rfl
  | schedules hno _ | begins hno _ _ | retries hno _ _ =>
      exact absurd (hc.symm.trans hno) (by simp)

theorem wake_flags : (r.wake now).next.cancelled = r.cancelled ∧
    (r.wake now).next.joined = r.joined := by
  have hs := r.wakes_of_wake now
  generalize r.wake now = s at hs ⊢
  cases hs <;> exact ⟨rfl, rfl⟩

/-- What it sends are renewals, and only as long as nobody asked it to end. -/
theorem wake_sent {q : Request} (h : (r.wake now).sent = some q) :
    r.cancelled = false ∧ q.operation = .refreshLock := by
  have hs := r.wakes_of_wake now
  generalize r.wake now = s at hs h
  cases hs with
  | begins hc _ _ | retries hc _ _ =>
      obtain rfl := Option.some.inj h
      exact ⟨hc, rfl⟩
  | idle _ | stops _ _ | schedules _ _ => cases h

theorem wake_breaksDown (h : (r.wake now).next.hasCrashed = true) : r.hasCrashed = true := by
  have hs := r.wakes_of_wake now
  generalize r.wake now = s at hs h
  cases hs with
  | idle _ => exact h
  | stops _ _ | schedules _ _ | begins _ _ _ | retries _ _ _ => cases h

/-! ## Answers -/

/-- `Answers now reply r s`: a renewer to which the reply arrives does `s`. -/
inductive Answers (now : Nat) (reply : Reply LockResponse) (r : Renewer) :
    Step Renewer Unit → Prop
  /-- It waits for no answer. -/
  | idle : r.isWaiting = false → Answers now reply r (.stay r)
  | stops : r.isWaiting = true → r.cancelled = true → Answers now reply r (r.finish none)
  | pauses {run run' log} : r.isListening = true → r.stage = .refreshing run →
      run.answer now reply = (.pausing run', log) →
      Answers now reply r { next := { r with stage := .refreshing run' }, log }
  | renewed {log} : r.isListening = true → reply.isLocked = true →
      Answers now reply r
        { next := { r with counter := r.counter + 1 }.schedule now, log }
  | failed {next log error} : r.isListening = true → reply.isLocked = false →
      next = { r with phase := .stopped, stage := .ended (some error) } →
      Answers now reply r { next, log }
  | broke {text log} : r.isListening = true → reply = .crash text →
      Answers now reply r { next := { r with stage := .crashed text }, log }

theorem answers_of_answer (r : Renewer) (now : Nat) (reply : Reply LockResponse) :
    Answers now reply r (r.answer now reply) := by
  unfold answer
  split
  · rename_i run hst
    split
    · rename_i hw
      exact .idle (by simpa [isWaiting, hst] using hw)
    rename_i hw
    have hwait : r.isWaiting = true := by simpa [isWaiting, hst] using hw
    split
    · rename_i hc
      exact .stops hwait hc
    rename_i hc
    have hlisten : r.isListening = true := by simpa [isListening, hwait] using hc
    split
    · rename_i run' log hrun
      exact .pauses hlisten hst hrun
    rename_i outcome log hrun
    have hout := Run.answer_finished hrun
    cases outcome with
    | ok response =>
        have hreply : reply.isLocked = response.locked := by simp [Reply.isLocked, ← hout]
        simp only [conclude, Step.after]
        split
        · rename_i hlocked
          exact .renewed hlisten (hreply.trans hlocked)
        · rename_i hlocked
          exact .failed hlisten (by simpa [hreply] using hlocked) rfl
    | error e => exact .failed hlisten (by simp [Reply.isLocked, ← hout]) rfl
    | crash text => exact .broke hlisten (Reply.eq_crash_of_outcome hout.symm)
  · rename_i hst
    refine .idle ?_
    unfold isWaiting
    split
    · rename_i run hst'
      exact absurd hst' (hst run)
    · rfl

theorem answer_over (h : r.isAlive = false) : r.answer now reply = .stay r := by
  have hwait := isWaiting_false_of_over h
  have hs := r.answers_of_answer now reply
  generalize r.answer now reply = s at hs ⊢
  cases hs with
  | idle _ => rfl
  | stops hw _ => exact absurd (hwait.symm.trans hw) (by simp)
  | pauses hl _ _ | renewed hl _ | failed hl _ _ | broke hl _ => simp [isListening, hwait] at hl

theorem answer_sent : (r.answer now reply).sent = none := by
  have hs := r.answers_of_answer now reply
  generalize r.answer now reply = s at hs ⊢
  cases hs <;> rfl

theorem answer_flags : (r.answer now reply).next.cancelled = r.cancelled ∧
    (r.answer now reply).next.joined = r.joined := by
  have hs := r.answers_of_answer now reply
  generalize r.answer now reply = s at hs ⊢
  cases hs with
  | failed _ _ hnext =>
      subst hnext
      exact ⟨rfl, rfl⟩
  | _ => exact ⟨rfl, rfl⟩

/-- A renewer breaks down only when its call does. -/
theorem answer_breaksDown (h : (r.answer now reply).next.hasCrashed = true) :
    r.hasCrashed = true ∨ ∃ text, reply = .crash text := by
  have hs := r.answers_of_answer now reply
  generalize r.answer now reply = s at hs h
  cases hs with
  | idle _ => exact .inl h
  | broke _ hreply => exact .inr ⟨_, hreply⟩
  | failed _ _ hnext =>
      subst hnext
      cases h
  | stops _ _ | pauses _ _ _ | renewed _ _ => cases h

/-! ## Taking over how it ended -/

/-- Who takes over the end of a renewer has to wait while it is at work. -/
theorem join_running (h : r.isRunning = true) : r.join = .stay r := by
  simp only [isRunning, Bool.and_eq_true, Bool.not_eq_true'] at h
  obtain ⟨ha, hj⟩ := h
  unfold isAlive at ha
  unfold join
  split at ha
  · simp at ha
  · simp at ha
  · simp [hj]

/-- A breakdown is handed on to the first who asks. -/
theorem join_broken (h : r.isBroken = true) :
    ∃ text, r.join.result = some (.crash text) ∧ r.join.next = { r with joined := true } := by
  unfold isBroken at h
  split at h
  · rename_i text hs
    exact ⟨text, by simp_all [join], by simp_all [join]⟩
  · simp at h

theorem join_over (hr : r.isRunning = false) (hb : r.isBroken = false) :
    r.join.result = some (.ok ()) ∨ ∃ e, r.join.result = some (.error e) := by
  cases hj : r.joined with
  | true => exact .inl (by simp [join, hj])
  | false =>
      cases hs : r.stage with
      | ended error =>
          cases error with
          | none => exact .inl (by simp [join, hj, hs])
          | some e => exact .inr ⟨e, by simp [join, hj, hs]⟩
      | crashed text => simp [isBroken, hs, hj] at hb
      | ready => simp [isRunning, isAlive, hs, hj] at hr
      | sleeping due => simp [isRunning, isAlive, hs, hj] at hr
      | refreshing run => simp [isRunning, isAlive, hs, hj] at hr

end Renewer

end DistLock
