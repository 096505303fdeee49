import DistLock.Proofs.Lifecycle.Accounting
import DistLock.Proofs.Lifecycle.Handover
import DistLock.Proofs.Renewal.Phases

/-!
# What a session shows of its renewer

A session shows the phase that its renewer published, and whether the
renewer runs. Along every run the phase is that of where the renewer is
(`isPublished_of_run`), and the renewer runs as long as it is alive
(`isRunning_of_run`). So whenever nobody can go on, the two say the same,
but for a renewer that broke down with a call (`observers_agree_iff`).
-/

namespace DistLock

namespace Lifecycle

variable {now : Nat} {autoRefresh : Bool} {policy : RetryPolicy} {es : List (Nat × Event)}
  {s : Session} {activity : Activity} {r : Renewer}

theorem isPublished_of_run (h : ((new policy autoRefresh).after es).renewer? = some r) :
    r.IsPublished := by
  refine renewer_of_run (P := Renewer.IsPublished) ?_ ?_ ?_ ?_ ?_ policy autoRefresh es h
  · intro policy name key lease _
    rfl
  · intro r hr
    exact hr
  · intro r hr
    exact hr
  · intro now r hr
    exact Renewer.isPublished_wake hr
  · intro now reply r hr
    exact Renewer.isPublished_answer hr

/-- A renewer whose end was taken over has ended, so it runs as long
as it is alive. -/
theorem isRunning_of_run (h : ((new policy autoRefresh).after es).renewer? = some r) :
    r.isRunning = r.isAlive := by
  have hjoined := (consistent_run policy autoRefresh es).1 r h
  unfold Renewer.isRunning
  cases hj : r.joined with
  | false => rw [Bool.not_false, Bool.and_true]
  | true => rw [hjoined hj, Bool.false_and]

/-! ## Whenever nobody can go on -/

/-- **What a session shows of its renewer.** Whenever nobody can go on, the
phase is that of a sleep exactly while the renewer sleeps until its next
renewal, and that of an end exactly when it ended without breaking down; it
is that of a renewal while one is in progress, repetitions included, and
after one that broke down. The session says that it renews exactly as long
as the renewer is alive, so the two agree exactly when the renewer did not
break down, and it does so only with the call of a renewal. -/
theorem observers_agree_iff (hafter : (new policy autoRefresh).after es = .owned s activity)
    (hr : s.renewer = some r) (hquiet : IsQuiet now (.owned s activity)) :
    (s.renewalPhase = some .scheduled ↔ r.SleepsAt now) ∧
      (s.renewalPhase = some .renewing ↔ r.RenewsAt now ∨ r.hasCrashed = true) ∧
      (s.renewalPhase = some .stopped ↔ r.isAlive = false ∧ r.hasCrashed = false) ∧
      (s.isRenewing = true ↔ r.isAlive = true) ∧
      ((s.isRenewing = true ↔
          s.renewalPhase = some .scheduled ∨ s.renewalPhase = some .renewing) ↔
        r.hasCrashed = false) ∧
      ((∀ m ∈ (new policy autoRefresh).moments es, ∀ text,
          m.event ≠ .answer (.refreshed (.crash text))) → r.hasCrashed = false) := by
  have hrun : ((new policy autoRefresh).after es).renewer? = some r := by
    rw [hafter]
    exact hr
  have hdue : ∀ t, r.dueAt = some t → now < t := by
    intro t ht
    apply hquiet .renewer
    rw [dueAt, show (Lifecycle.owned s activity).renewer? = some r from hr]
    exact ht
  have hpublished : r.IsPublished := isPublished_of_run hrun
  have hshown {phase : RenewalPhase} : s.renewalPhase = some phase ↔ r.phase = phase := by
    rw [Session.renewalPhase, hr, Option.map_some, Option.some_inj]
  have hphase {phase : RenewalPhase} : s.renewalPhase = some phase ↔ r.IsIn now phase :=
    hshown.trans (Renewer.phase_eq_iff hpublished hdue)
  have hrenewing : s.isRenewing = r.isAlive := by
    rw [Session.isRenewing, hr, Option.any_some]
    exact isRunning_of_run hrun
  refine ⟨hphase, hphase, hphase, by rw [hrenewing], ?_, fun hcalm => intact_of_run hcalm r hrun⟩
  rw [hrenewing, hshown, hshown]
  exact Renewer.isAlive_iff_phase hpublished

/-- A run in which a renewal is to be repeated. -/
def repeatingRun : List (Nat × Event) :=
  grantedRun ++ [(0, .wake .renewer), (10000, .wake .renewer),
    (10002, .answer (.refreshed (.failure { code := .unavailable })))]

/-- In the pause before a renewal is repeated, the phase is that of a
renewal, and the session says that it renews. -/
theorem observers_agree_repeating : ∃ s r,
    (new ⟨1000, 3⟩ true).after repeatingRun = .owned s .resting ∧ s.renewer = some r ∧
      IsQuiet 10500 (.owned s .resting) ∧ r.isWaiting = false ∧ r.RenewsAt 10500 ∧
      s.renewalPhase = some .renewing ∧ s.isRenewing = true := by
  have hquiet : IsQuiet 10500 ((new ⟨1000, 3⟩ true).after repeatingRun) := by
    intro w t ht
    cases w with
    | holder => cases ht
    | renewer =>
        obtain rfl : 11002 = t := Option.some.inj ht
        decide
  have hafter : (new ⟨1000, 3⟩ true).after repeatingRun = .owned _ .resting := rfl
  obtain ⟨-, hrenewing, -, hrunning, -⟩ := observers_agree_iff hafter rfl hquiet
  have hrenews : Renewer.RenewsAt 10500 _ := (hrenewing.1 rfl).resolve_right (by decide)
  exact ⟨_, _, rfl, rfl, hquiet, rfl, hrenews, rfl, hrunning.2 rfl⟩

/-- After a renewal that broke down, its phase is still shown, though the
renewer is over. -/
theorem phase_after_breakdown : ∃ s r,
    (new ⟨1000, 3⟩ true).after brokenRun = .owned s .resting ∧ s.renewer = some r ∧
      IsQuiet 10001 (.owned s .resting) ∧ r.isAlive = false ∧
      s.renewalPhase = some .renewing ∧ ¬ r.RenewsAt 10001 ∧ s.isRenewing = false := by
  refine ⟨_, _, rfl, rfl, ?_, rfl, rfl, ?_, rfl⟩
  · intro w t ht
    cases w <;> cases ht
  · rintro ⟨run, hst, -⟩
    cases hst

end Lifecycle

end DistLock
