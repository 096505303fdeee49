import DistLock.Proofs.Lifecycle.Accounting
import DistLock.Proofs.Lifecycle.Holding

/-!
# Who has to give a lock back

`owed?` is the lock that a life has to give back: the lock of a session that
is held or being released, or that of a release in the background that has
not ended. A grant makes it (`owed?_of_grant`), the answer to the call that
gives the lock back ends it (`owed?_of_response`), and nothing else changes
it: it goes over from the owner to the background release as it is
(`owed?_of_move`).
-/

namespace DistLock

/-- A transient status makes a run pause as long as repetitions are left. -/
theorem Run.answer_of_transient {α ρ : Type} [HasDecision ρ] {run : Run α} {status : Status}
    (now : Nat) (ht : status.isTransient = true)
    (hleft : run.invocation.policy.isExhausted run.invocation.retries = false) :
    ∃ run' log, run.answer now (.failure status : Reply ρ) = (.pausing run', log) := by
  simp only [Run.answer, Invocation.settle, ht, hleft]
  exact ⟨_, _, rfl⟩

namespace Lifecycle

/-- The lock that is to be given back. -/
def owed? : Lifecycle → Option UnlockRequest
  | .owned s _ => if s.owesUnlock then s.handle.map fun h => ⟨h.name, h.secret⟩ else none
  | .background b => if b.stage = .done then none else some b.request
  | .gone _ => none

/-- The lock is to be given back, by its owner, who can read its key, or in
the background. -/
def Owes (u : UnlockRequest) : Lifecycle → Prop
  | .owned s _ => (s.state = .held ∨ s.state = .releasing) ∧
      ∃ h, s.handle = some h ∧ h.locked = true ∧ h.name = u.name ∧ h.key? = some u.key
  | .background b => b.stage ≠ .done ∧ b.request = u
  | .gone _ => False

/-- The session was released or dropped, or never had a lock, and nothing is
left to do for it. -/
def IsSettled : Lifecycle → Prop
  | .owned s _ => s.state ≠ .held ∧ s.state ≠ .releasing
  | .background b => b.stage = .done
  | .gone _ => True

/-- The call under way that gives the lock back. -/
def unlockRun? : Lifecycle → Option (Run UnlockRequest)
  | .owned _ (.unlocking _ run) => some run
  | .background b =>
    match b.stage with
    | .unlocking run => some run
    | _ => none
  | _ => none

variable {now : Nat} {autoRefresh : Bool} {g : Option Grant} {l : Lifecycle} {e : Event}
  {step : Step Lifecycle OwnerResult} {s t : Session} {activity : Activity} {u : UnlockRequest}

@[simp] theorem owed?_setRenewer (r : Renewer) : (l.setRenewer r).owed? = l.owed? := by
  cases l <;> rfl

theorem owed?_of_owesUnlock {x : LockHandle} (ho : s.owesUnlock = true) (hx : s.handle = some x) :
    (Lifecycle.owned s activity).owed? = some ⟨x.name, x.secret⟩ := by
  simp [owed?, ho, hx]

theorem owed?_eq_none (ho : s.owesUnlock = false) : (Lifecycle.owned s activity).owed? = none := by
  simp [owed?, ho]

theorem owed?_eq_some : l.owed? = some u ↔ l.Owes u := by
  cases l with
  | owned s activity =>
      constructor
      · intro h
        simp only [Lifecycle.owed?, Option.ite_none_right_eq_some, Option.map_eq_some_iff] at h
        obtain ⟨ho, x, hx, rfl⟩ := h
        simp only [Session.owesUnlock, Session.isLocked, hx, Option.any_some, Bool.and_eq_true,
          Bool.or_eq_true, beq_iff_eq] at ho
        exact ⟨ho.1, x, hx, ho.2, rfl, by simp [LockHandle.key?, ho.2]⟩
      · rintro ⟨hst, x, hx, hlocked, hname, hkey⟩
        have ho : s.owesUnlock = true := by
          simp [Session.owesUnlock, Session.isLocked, hx, hlocked, hst]
        simp only [LockHandle.key?, hlocked, if_true, Option.some.injEq] at hkey
        rw [owed?_of_owesUnlock ho hx, hname, hkey]
  | background b => simp [Lifecycle.owed?, Owes]
  | gone r => simp [Lifecycle.owed?, Owes]

theorem IsSettled.owed? (h : l.IsSettled) : l.owed? = none := by
  cases l with
  | owned s activity => exact owed?_eq_none (Session.owesUnlock_eq_false h.1 h.2)
  | background b => exact if_pos h
  | gone r => rfl

/-! ## Nothing but a grant and an answer changes what is owed -/

/-- To begin a release does not change what is owed. -/
theorem owed?_of_awaitsEnd (h : Consistent autoRefresh g (.owned s activity))
    (ha : AwaitsEnd s activity e t) (activity' : Activity) :
    (Lifecycle.owned t activity').owed? = (Lifecycle.owned s activity).owed? := by
  have ht := (unlocksDue_of_awaitsEnd h ha).2
  cases ha with
  | again => rfl
  | first ho =>
      simp only [owed?, ht, ho, if_true]
      rfl

theorem owed?_of_backgroundAwaits {b b' : BackgroundRelease} (ha : b.AwaitsEnd b') :
    (Lifecycle.background b).owed? = some b'.request := by
  cases ha with
  | first hst | again hst => simp [owed?, hst]

/-- What is owed stays so, unless the lock is granted or the call that gives
it back is answered. -/
theorem owed?_of_move (hc : Consistent autoRefresh g l) (hi : Intact l) (hm : Move now l e step)
    (ho : e.isOrderly = true) (hgrant : Moment.grant? ⟨now, e, l⟩ = none)
    (hanswer : ∀ reply, e ≠ .answer (.unlocked reply)) : step.next.owed? = l.owed? := by
  cases hm with
  | stay _ => rfl
  | renewerWakes _ | renewerAnswered _ _ => exact owed?_setRenewer _
  | acquireBegun hb =>
      obtain ⟨-, hst, -⟩ := Session.begin_eq_ok hb
      rw [owed?_eq_none (by simp [Session.owesUnlock]),
        owed?_eq_none (by simp [Session.owesUnlock, hst])]
  | granted hw hkey => simp [Moment.grant?, hw, hkey] at hgrant
  | notGranted _ _ _ _ =>
      have hst := hc.activity_fits.1
      rw [owed?_eq_none (by simp [Session.owesUnlock, Session.refuse]),
        owed?_eq_none (by simp [Session.owesUnlock, hst])]
  | releaseWaits ha _ _ | releaseBreaks ha _ _ | releaseUnlocks ha _ _ =>
      exact owed?_of_awaitsEnd hc ha .resting
  | releaseLost ha hx => exact absurd hx (hc.handle_ne_none ha)
  | handedOver howes hx =>
      rw [owed?_of_owesUnlock howes hx]
      rfl
  | letGo hb => rw [owed?_eq_none (hb ho)]; rfl
  | backgroundWaits ha _ _ =>
      rw [owed?_of_backgroundAwaits ha]
      rfl
  | backgroundBreaks ha hr hb =>
      -- an intact renewer is not found broken
      have hintact := hi.not_broken (becomes_of_backgroundAwaits ha hr)
      exact absurd hintact (by simp [hb])
  | backgroundUnlocks ha _ =>
      rw [owed?_of_backgroundAwaits ha]
      rfl
  | backgroundRetried hst _ => simp [owed?, hst]
  | unlockPaused _ _ | released _ _ _ | unlockCrashed _ | backgroundPaused _ _ _
  | backgroundDone _ _ => exact absurd rfl (hanswer _)
  | _ => rfl

/-! ## Grants and answers -/

/-- Whoever waits for a lock owes none. -/
theorem Consistent.owed?_of_asks (hc : Consistent autoRefresh g l) {q : Request}
    (h : l.awaits = some q) (hq : q.asks = true) : l.owed? = none := by
  obtain ⟨s, a, run, rfl, -, -⟩ := hc.acquiring_of_awaits h hq
  exact owed?_eq_none (by simp [Session.owesUnlock, hc.activity_fits.1])

/-- The call that gives a lock back is for the lock that is owed. -/
theorem Consistent.owed?_of_unlockRun (hc : Consistent autoRefresh g l)
    {run : Run UnlockRequest} (h : l.unlockRun? = some run) : l.owed? = some run.request := by
  cases l with
  | owned s activity =>
      cases activity with
      | unlocking renewal run' =>
          obtain rfl := Option.some.inj h
          obtain ⟨hst, -, x, hx, hreq⟩ := hc.activity_fits
          have ho := hc.owesUnlock_eq
          rw [hst] at ho
          rw [owed?_of_owesUnlock ho hx, hreq]
      | _ => simp [unlockRun?] at h
  | background b =>
      obtain ⟨-, grant, -, hreq, hb⟩ := hc
      cases hst : b.stage with
      | unlocking run' =>
          simp only [unlockRun?, hst, Option.some.injEq] at h
          simp only [hst] at hb
          subst h
          simp [owed?, hst, hreq, hb.2]
      | _ => simp [unlockRun?, hst] at h
  | gone r => simp [unlockRun?] at h

/-- Whoever waits for the answer to the call that gives a lock back
is in that call. -/
theorem Consistent.unlockRun?_of_awaits (hc : Consistent autoRefresh g l)
    (h : l.awaits = some (.unlock u)) :
    ∃ run, l.unlockRun? = some run ∧ run.isWaiting = true ∧ run.request = u := by
  cases l with
  | owned s activity =>
      cases activity with
      | acquiring a run =>
          simp only [awaits, Option.ite_none_right_eq_some, Option.some.injEq] at h
          have hasks := a.request_asks
          rw [← hc.activity_fits.2.2, h.2] at hasks
          simp [Request.asks] at hasks
      | unlocking renewal run =>
          simp only [awaits, Option.ite_none_right_eq_some, Option.some.injEq,
            Request.unlock.injEq] at h
          exact ⟨run, rfl, h⟩
      | _ => simp [awaits] at h
  | background b =>
      cases hst : b.stage with
      | unlocking run =>
          simp only [awaits, hst, Option.ite_none_right_eq_some, Option.some.injEq,
            Request.unlock.injEq] at h
          exact ⟨run, by simp [unlockRun?, hst], h⟩
      | _ => simp [awaits, hst] at h
  | gone r => simp [awaits] at h

/-- Whoever is granted a lock owes it. -/
theorem owed?_of_grant (hm : Move now l e step) {grant : Grant}
    (hgrant : Moment.grant? ⟨now, e, l⟩ = some grant) :
    step.next.owed? = some grant.unlockRequest := by
  obtain ⟨s, a, run, reply, key, rfl, rfl, hw, hkey, rfl⟩ := grant?_eq_some hgrant
  cases hm with
  | stay hig => exact absurd (hgrant.symm.trans (grant?_of_ignores hig)) (by simp)
  | acquirePaused _ hp =>
      obtain ⟨-, -, status, rfl⟩ := Run.answer_pausing hp
      simp [Reply.key?, Reply.outcome] at hkey
  | granted _ hkey' =>
      obtain rfl := Option.some.inj (hkey.symm.trans hkey')
      rw [owed?_of_owesUnlock (by simp [Session.owesUnlock, Session.isLocked, LockHandle.held])
        Session.grant_handle]
      rfl
  | notGranted _ hnone _ _ => exact absurd (hkey.symm.trans hnone) (by simp)
  | acquireCrashed _ => simp [Reply.key?, Reply.outcome] at hkey
  | releaseWaits ha _ _ | releaseBreaks ha _ _ | releaseUnlocks ha _ _ | releaseLost ha _ =>
      cases ha

/-- The answer to the call that gives a lock back is not ignored while
it is waited for. -/
theorem not_ignores_of_unlockRun {run : Run UnlockRequest} (h : l.unlockRun? = some run)
    (hw : run.isWaiting = true) (reply : Reply UnlockResponse) :
    ¬ Ignores now l (.answer (.unlocked reply)) := by
  intro hig
  cases l with
  | owned s activity =>
      cases activity with
      | unlocking renewal run' =>
          obtain rfl := Option.some.inj h
          exact absurd (hw.symm.trans hig) (by simp)
      | _ => simp [unlockRun?] at h
  | background b =>
      have hno : b.isWaiting = false := hig
      cases hst : b.stage with
      | unlocking run' =>
          simp only [unlockRun?, hst, Option.some.injEq] at h
          simp [BackgroundRelease.isWaiting, hst, h, hw] at hno
      | _ => simp [unlockRun?, hst] at h
  | gone r => simp [unlockRun?] at h

/-- The answer to the call that gives a lock back is the end of it,
whatever it says. -/
theorem owed?_of_response {r : UnlockResponse} {run : Run UnlockRequest}
    (hm : Move now l (.answer (.unlocked (.response r))) step) (h : l.unlockRun? = some run)
    (hw : run.isWaiting = true) : step.next.owed? = none := by
  generalize he : Event.answer (.unlocked (.response r)) = e at hm
  cases hm with
  | stay hig =>
      subst he
      exact absurd hig (not_ignores_of_unlockRun h hw _)
  | unlockPaused _ hp | backgroundPaused _ _ hp =>
      obtain ⟨-, -, status, rfl⟩ := Run.answer_pausing hp
      simp at he
  | released _ _ _ => exact owed?_eq_none (by simp [Session.owesUnlock, Session.markReleased])
  | backgroundDone _ _ => simp [owed?]
  | releaseWaits ha _ _ | releaseBreaks ha _ _ | releaseUnlocks ha _ _ | releaseLost ha _ =>
      subst he
      cases ha
  | _ => simp at he

/-- As long as the call can be repeated, a transient status
leaves the lock owed. -/
theorem owed?_of_transient {run : Run UnlockRequest} {status : Status}
    (h : l.unlockRun? = some run) (hw : run.isWaiting = true) (ht : status.isTransient = true)
    (hleft : run.invocation.policy.isExhausted run.invocation.retries = false) :
    (l.step now (.answer (.unlocked (.failure status)))).next.owed? = l.owed? := by
  obtain ⟨run', log, hp⟩ := Run.answer_of_transient (ρ := UnlockResponse) now ht hleft
  cases l with
  | owned s activity =>
      cases activity with
      | unlocking renewal run₀ =>
          obtain rfl := Option.some.inj h
          simp [Lifecycle.step, Activity.answer, hw, hp, owed?]
      | _ => simp [unlockRun?] at h
  | background b =>
      cases hst : b.stage with
      | unlocking run₀ =>
          simp only [unlockRun?, hst, Option.some.injEq] at h
          subst h
          simp [Lifecycle.step, BackgroundRelease.answer, hst, hw, hp, owed?, Step.lift]
      | _ => simp [unlockRun?, hst] at h
  | gone r => simp [unlockRun?] at h

end Lifecycle

end DistLock
