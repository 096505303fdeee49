import DistLock.Proofs.Renewal

/-!
# The pace of a renewer

A renewer that nobody asked to end sleeps for its interval after each
renewal, and then begins the next. `Paced` says where that leaves it:
`since` is when its lock was last renewed, `begun` when it last began a
renewal, and `now` the present, as long as it goes on in time. A turn in
time keeps the pace (`Paced.wake`, `Paced.answer`).
-/

namespace DistLock

namespace Renewer

variable {r : Renewer} {now since : Nat} {begun : Option Nat} {reply : Reply LockResponse}

/-- A renewal is in progress, a pause between two attempts included. -/
def isRefreshing (r : Renewer) : Bool :=
  match r.stage with
  | .refreshing _ => true
  | _ => false

/-! ## What is sent -/

variable {s : Step Renewer Unit} {r' : Renewer}

/-- It works for the same lock. -/
structure SameLock (r r' : Renewer) : Prop where
  name : r'.name = r.name
  key : r'.key = r.key
  lease : r'.lease = r.lease

theorem Wakes.sameLock (hs : Wakes now r s) : SameLock r s.next := by
  cases hs <;> exact ⟨rfl, rfl, rfl⟩

theorem Answers.sameLock (hs : Answers now reply r s) : SameLock r s.next := by
  cases hs with
  | failed _ _ hnext =>
      subst hnext
      exact ⟨rfl, rfl, rfl⟩
  | _ => exact ⟨rfl, rfl, rfl⟩

/-- Whatever call is under way, it sends the request of the renewer. -/
def IsFaithful (r : Renewer) : Prop := ∀ run, r.stage = .refreshing run → run.request = r.request

theorem isFaithful_of_stage (h : r.isRefreshing = false) : r.IsFaithful := by
  intro run hst
  simp [isRefreshing, hst] at h

theorem isFaithful_attempt {run : Run RefreshLockRequest} (h : run.request = r.request) :
    (r.attempt run).next.IsFaithful := by
  intro run' hst
  obtain rfl := RenewalStage.refreshing.inj hst
  exact h

/-- Each attempt of each renewal sends the same request. -/
theorem Wakes.faithful (hs : Wakes now r s) (h : r.IsFaithful) :
    s.next.IsFaithful ∧ ∀ q, s.sent = some q → q = .refreshLock r.request := by
  have hsent {run : Run RefreshLockRequest} (hrun : run.request = r.request) :
      ∀ q, (r.attempt run).sent = some q → q = .refreshLock r.request := by
    intro q hq
    obtain rfl := Option.some.inj hq
    rw [hrun]
  cases hs with
  | idle _ => exact ⟨h, by simp [Step.stay]⟩
  | stops _ _ | schedules _ _ => exact ⟨isFaithful_of_stage rfl, by simp [finish, Step.stay]⟩
  | begins _ _ _ => exact ⟨isFaithful_attempt rfl, hsent rfl⟩
  | retries _ hst hrun =>
      have hsame := (Run.resume?_eq_some hrun).2.1.trans (h _ hst)
      exact ⟨isFaithful_attempt hsame, hsent hsame⟩

theorem Answers.faithful (hs : Answers now reply r s) (h : r.IsFaithful) :
    s.next.IsFaithful := by
  cases hs with
  | idle _ => exact h
  | pauses _ hst hrun =>
      exact isFaithful_attempt ((Run.answer_pausing hrun).1.trans (h _ hst))
  | failed _ _ hnext =>
      subst hnext
      exact isFaithful_of_stage rfl
  | stops _ _ | renewed _ _ | broke _ _ => exact isFaithful_of_stage rfl

/-! ## The pace -/

/-- Where a renewer stands that goes on in time: `since` is when its lock
was last renewed, and `begun` when it last began a renewal. -/
def Paced (since : Nat) (begun : Option Nat) (now : Nat) (r : Renewer) : Prop :=
  match r.stage with
  | .ready => now = since
  | .sleeping due => due = since + r.pause ∧ now ≤ due
  | .refreshing _ =>
    begun = some (since + r.pause) ∧ since + r.pause ≤ now
  | .ended _ | .crashed _ => True

/-- Time goes on until something is due, and not beyond it. -/
theorem Paced.wait {later : Nat} (h : r.Paced since begun now) (hc : r.cancelled = false)
    (hle : now ≤ later) (hdue : ∀ t, r.dueAt = some t → later ≤ max now t) :
    r.Paced since begun later := by
  unfold Paced at h ⊢
  cases hst : r.stage with
  | ready =>
      simp only [hst] at h ⊢
      have hnow := hdue 0 (by simp [dueAt, isAlive, hst, hc])
      omega
  | sleeping due =>
      simp only [hst] at h ⊢
      have hnow := hdue due (by simp [dueAt, isAlive, hst, hc])
      omega
  | refreshing run =>
      simp only [hst] at h ⊢
      exact ⟨h.1, Nat.le_trans h.2 hle⟩
  | ended error | crashed text => trivial

theorem Paced.of_refreshing {run : Run RefreshLockRequest} (h : r.Paced since begun now)
    (hst : r.stage = .refreshing run) :
    begun = some (since + r.pause) ∧ since + r.pause ≤ now := by
  unfold Paced at h
  rwa [hst] at h

/-- A renewer that goes on when it may begins its next renewal on time. -/
theorem Paced.wake (h : r.Paced since begun now) (hs : Wakes now r s) :
    s.next.Paced since (if s.sent.isSome && !r.isRefreshing then some now else begun) now := by
  cases hs with
  | idle _ => exact h
  | stops _ _ => trivial
  | schedules _ hst =>
      obtain rfl : now = since := by simpa [Paced, hst] using h
      exact ⟨rfl, Nat.le_add_right _ _⟩
  | @begins due _ hst hdue =>
      obtain ⟨rfl, hle⟩ : due = since + r.pause ∧ now ≤ due := by
        simpa [Paced, hst] using h
      have hnow : now = since + r.pause := Nat.le_antisymm hle hdue
      have hbegins : ((r.attempt (.start r.invocation)).sent.isSome && !r.isRefreshing) = true := by
        simp [attempt, isRefreshing, hst]
      rw [if_pos hbegins]
      exact ⟨congrArg some hnow, Nat.le_of_eq hnow.symm⟩
  | @retries run run' _ hst _ =>
      have hgoes : ((r.attempt run').sent.isSome && !r.isRefreshing) = false := by
        simp [isRefreshing, hst]
      rw [hgoes]
      exact h.of_refreshing hst

/-- A renewal that is answered starts the lease anew. -/
theorem Paced.answer (h : r.Paced since begun now) (hs : Answers now reply r s) :
    s.next.Paced (if r.isListening && reply.isLocked then now else since) begun now := by
  cases hs with
  | idle hw =>
      have hno : (r.isListening && reply.isLocked) = false := by simp [isListening, hw]
      rw [hno]
      exact h
  | stops _ _ | broke _ _ => trivial
  | failed _ _ hnext =>
      subst hnext
      trivial
  | @pauses run run' log _ hst hrun =>
      obtain ⟨-, -, status, rfl⟩ := Run.answer_pausing hrun
      have hno :
          (r.isListening && (Reply.failure status : Reply LockResponse).isLocked) = false := by
        simp [Reply.isLocked, Reply.outcome]
      rw [hno]
      exact h.of_refreshing hst
  | renewed hlisten hlocked =>
      rw [hlisten, hlocked]
      exact ⟨rfl, Nat.le_add_right _ _⟩

end Renewer

end DistLock
