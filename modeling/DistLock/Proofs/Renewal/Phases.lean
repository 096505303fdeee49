import DistLock.Proofs.Renewal

/-!
# What observers of a renewer are told

A renewer publishes its phase itself, and whether it runs is asked of it
from outside. The phase is published where the renewer goes on, so it lags
behind in one place: a renewer that breaks down does not get there any more,
and what it published last remains (`RenewalStage.phase`).

* Whatever a renewer does, it publishes the phase of where it then is
  (`isPublished_wake`, `isPublished_answer`).
* So when nothing of it is due, its phase says what it waits for, or that it
  is over (`phase_eq_iff`), and that goes with whether it is alive
  (`isAlive_iff_phase`).
-/

namespace DistLock

/-- What a renewer has published last by the time it is here. -/
def RenewalStage.phase : RenewalStage → RenewalPhase
  | .ready | .sleeping _ => .scheduled
  | .refreshing _ | .crashed _ => .renewing
  | .ended _ => .stopped

namespace Renewer

variable {r : Renewer} {now : Nat}

/-- Its phase is that of where it is. -/
def IsPublished (r : Renewer) : Prop := r.phase = r.stage.phase

/-- It sleeps until its next renewal. -/
def SleepsAt (now : Nat) (r : Renewer) : Prop := ∃ due, r.stage = .sleeping due ∧ now < due

/-- A renewal is in progress: its call is under way, or is to be repeated. -/
def RenewsAt (now : Nat) (r : Renewer) : Prop :=
  ∃ run, r.stage = .refreshing run ∧
    (run.isWaiting = true ∨ ∃ due, run.resumeAt = some due ∧ now < due)

/-! ## Publishing -/

theorem isPublished_wake (h : r.IsPublished) : (r.wake now).next.IsPublished := by
  have hs := r.wakes_of_wake now
  generalize r.wake now = s at hs ⊢
  cases hs with
  | idle _ => exact h
  | stops _ _ | schedules _ _ | begins _ _ _ | retries _ _ _ => rfl

/-- A reply after which the call is repeated, or with which the renewer
breaks down, leaves the phase of the call. -/
theorem isPublished_answer {reply : Reply LockResponse} (h : r.IsPublished) :
    (r.answer now reply).next.IsPublished := by
  have hs := r.answers_of_answer now reply
  generalize r.answer now reply = s at hs ⊢
  have hcall (hl : r.isListening = true) : r.phase = .renewing := by
    unfold isListening at hl
    obtain ⟨run, hst⟩ := exists_run_of_isWaiting (Bool.and_eq_true_iff.1 hl).1
    rw [h, hst]
    rfl
  cases hs with
  | idle _ => exact h
  | stops _ _ | renewed _ _ => rfl
  | failed _ _ hnext =>
      subst hnext
      rfl
  | pauses hl _ _ | broke hl _ => exact hcall hl

/-! ## Reading the phase -/

/-- What a phase says of a renewer of which nothing is due. -/
def IsIn (now : Nat) (r : Renewer) : RenewalPhase → Prop
  | .scheduled => r.SleepsAt now
  | .renewing => r.RenewsAt now ∨ r.hasCrashed = true
  | .stopped => r.isAlive = false ∧ r.hasCrashed = false

theorem exists_crashed (h : r.hasCrashed = true) : ∃ text, r.stage = .crashed text := by
  unfold hasCrashed at h
  split at h
  · exact ⟨_, ‹_›⟩
  · cases h

theorem phase_of_isIn (hp : r.IsPublished) {phase : RenewalPhase} (h : r.IsIn now phase) :
    r.phase = phase := by
  rw [hp]
  cases phase with
  | scheduled =>
      obtain ⟨due, hst, -⟩ := h
      rw [hst]
      rfl
  | renewing =>
      rcases h with ⟨run, hst, -⟩ | hcrash
      · rw [hst]
        rfl
      · obtain ⟨text, hst⟩ := exists_crashed hcrash
        rw [hst]
        rfl
  | stopped =>
      obtain ⟨hover, hwhole⟩ := h
      cases hst : r.stage with
      | ended error => rfl
      | crashed text => simp [hasCrashed, hst] at hwhole
      | ready | sleeping due | refreshing run => simp [isAlive, hst] at hover

theorem isIn_of_quiet (hq : ∀ t, r.dueAt = some t → now < t) : r.IsIn now r.stage.phase := by
  -- one that was asked to end could go on, unless it is over
  have hnever : ¬ r.dueAt = some 0 := fun hzero => Nat.not_lt_zero now (hq 0 hzero)
  cases hst : r.stage with
  | ready => exact absurd (by simp [dueAt, isAlive, hst]) hnever
  | sleeping due =>
      cases hc : r.cancelled with
      | true => exact absurd (by simp [dueAt, isAlive, hst, hc]) hnever
      | false => exact ⟨due, hst, hq due (by simp [dueAt, isAlive, hst, hc])⟩
  | refreshing run =>
      refine .inl ⟨run, hst, ?_⟩
      cases hc : r.cancelled with
      | true => exact absurd (by simp [dueAt, isAlive, hst, hc]) hnever
      | false =>
          cases hrun : run.resumeAt with
          | none => exact .inl (by rw [Run.isWaiting, hrun]; rfl)
          | some due => exact .inr ⟨due, rfl, hq due (by simp [dueAt, isAlive, hst, hc, hrun])⟩
  | ended error => exact ⟨by simp [isAlive, hst], by simp [hasCrashed, hst]⟩
  | crashed text => exact .inr (by simp [hasCrashed, hst])

/-- When nothing of a renewer is due, its phase says what it does. -/
theorem phase_eq_iff (hp : r.IsPublished) (hq : ∀ t, r.dueAt = some t → now < t)
    {phase : RenewalPhase} : r.phase = phase ↔ r.IsIn now phase := by
  refine ⟨?_, phase_of_isIn hp⟩
  rintro rfl
  rw [hp]
  exact isIn_of_quiet hq

/-- The phase and the pulse of a renewer go together, unless it broke down. -/
theorem isAlive_iff_phase (hp : r.IsPublished) :
    (r.isAlive = true ↔ r.phase = .scheduled ∨ r.phase = .renewing) ↔ r.hasCrashed = false := by
  rw [hp]
  cases hst : r.stage <;> simp [isAlive, hasCrashed, hst, RenewalStage.phase]

end Renewer

end DistLock
