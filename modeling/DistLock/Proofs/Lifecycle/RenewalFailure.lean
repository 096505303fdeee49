import DistLock.Proofs.Lifecycle.Calls

/-!
# What becomes of the error of a renewal

A renewal that fails while the lock is held leaves its error with the
renewer. The release that takes over the end of the renewer takes over the
error with it, and reports it when the service has taken the lock back. So
the error is where `Recalls` says it is: with the renewer until a call that
gives the lock back begins, and then with that call.

A release that is cut off before its call begins leaves the error where it
is. One that is cut off while its call is under way takes the error with it:
the next release finds no renewer, and has nothing to report
(`renewal_failure_reported`, `renewal_failure_lost`).
-/

namespace DistLock

namespace Moment

/-- A release is cut off while its call is under way: the owner gives it up,
or the call breaks down. -/
def cutsUnlock (m : Moment) : Bool :=
  match m.before, m.event with
  | .owned _ (.unlocking _ _), .abandon => true
  | .owned _ (.unlocking _ run), .answer (.unlocked (.crash _)) => run.isWaiting
  | _, _ => false

/-- The service takes the lock back, and the owner is there to learn it. -/
def acceptsUnlock (m : Moment) : Bool :=
  match m.before, m.event with
  | .owned _ (.unlocking _ run), .answer (.unlocked (.response r)) =>
    run.isWaiting && r.error.isNone && r.unlocked
  | _, _ => false

end Moment

/-- The renewal failed with the error, and nobody has taken that over. -/
def Renewer.HasFailed (r : Renewer) (e : ClientError) : Prop :=
  r.stage = .ended (some e) ∧ r.joined = false

theorem Renewer.HasFailed.isAlive {r : Renewer} {e : ClientError} (h : r.HasFailed e) :
    r.isAlive = false := by
  simp [Renewer.isAlive, h.1]

/-- The session has a renewer that failed with the error, or none any more
if the error is lost. -/
def Session.Recalls (s : Session) (e : ClientError) (lost : Bool) : Prop :=
  if lost then s.renewer = none else ∃ r, s.renewer = some r ∧ r.HasFailed e

namespace Lifecycle

/-- Where the error of a renewal is until the lock is given back, or
that it is lost. -/
def Recalls (e : ClientError) (lost : Bool) : Lifecycle → Prop
  | .owned _ (.unlocking renewal _) => renewal = if lost then none else some e
  | .owned s _ => s.owesUnlock = true → s.Recalls e lost
  | _ => True

end Lifecycle

/-! ## The end of a renewer is taken over -/

namespace Session

variable {s t : Session} {x : LockHandle} {r : Renewer} {e : ClientError} {activity : Activity}
  {lost : Bool} {ev : Event}

theorem awaitRenewer_of_none (hr : t.renewer = none) (hx : t.handle = some x) :
    t.awaitRenewer.next = .owned t (.unlocking none (t.unlockRun x)) := by
  simp only [awaitRenewer, hr, sendUnlock, hx]
  rfl

/-- The error of a renewal goes over to the call that gives the lock back. -/
theorem awaitRenewer_of_failed (hr : t.renewer = some r) (hf : r.HasFailed e)
    (hx : t.handle = some x) :
    t.awaitRenewer.next = .owned t.forgetRenewer (.unlocking (some e) (t.unlockRun x)) := by
  have hjoin : r.join.result = some (.error e) := by
    simp [Renewer.join, hf.1, hf.2]
  simp only [awaitRenewer, hr, hjoin, sendUnlock, hx, Step.after, forgetRenewer, unlockRun]

/-- The call that gives the lock back begins with the error that the
session recalls. -/
theorem Recalls.awaitRenewer (h : t.Recalls e lost) (hx : t.handle = some x) :
    ∃ t', t.awaitRenewer.next =
      .owned t' (.unlocking (if lost then none else some e) (t.unlockRun x)) := by
  cases lost with
  | true => exact ⟨t, awaitRenewer_of_none h hx⟩
  | false =>
      obtain ⟨r, hr, hf⟩ := h
      exact ⟨t.forgetRenewer, awaitRenewer_of_failed hr hf hx⟩

/-- Asking a renewer to end does not change how it ended. -/
theorem Recalls.awaitsEnd (h : s.Recalls e lost) (ha : AwaitsEnd s activity ev t) :
    t.Recalls e lost := by
  cases ha with
  | again => exact h
  | first _ =>
      cases lost with
      | true => exact congrArg (Option.map (·.cancel)) (show s.renewer = none from h)
      | false =>
          obtain ⟨r, hr, hf⟩ := h
          exact ⟨r.cancel, by simp [beginRelease, hr], hf⟩

end Session

namespace Lifecycle

variable {now : Nat} {autoRefresh : Bool} {g : Option Grant} {grant : Grant} {l : Lifecycle}
  {ev : Event} {s t : Session} {activity : Activity} {r : Renewer} {e : ClientError} {lost : Bool}
  {step : Step Lifecycle OwnerResult}

theorem step_of_awaitsEnd (ha : AwaitsEnd s activity ev t) :
    (Lifecycle.owned s activity).step now ev = t.awaitRenewer := by
  cases ha with
  | first ho => simp only [Lifecycle.step, Session.startRelease, ho, if_true, Session.beginRelease]
  | again => rfl

/-- An owner that looks for the end of its renewer owes the lock. -/
theorem owesUnlock_of_awaitsEnd (h : Consistent autoRefresh g (.owned s activity))
    (ha : AwaitsEnd s activity ev t) : s.owesUnlock = true := by
  cases ha with
  | first ho => exact ho
  | again =>
      have hst : s.state = .releasing := h.activity_fits
      rw [h.owesUnlock_eq, hst]
      rfl

theorem cutsUnlock_of_ignores (h : Ignores now l ev) : Moment.cutsUnlock ⟨now, ev, l⟩ = false := by
  unfold Moment.cutsUnlock
  split
  · rename_i hl he
    obtain rfl := hl
    obtain rfl : ev = .abandon := he
    exact h.elim
  · rename_i hl he
    obtain rfl := hl
    obtain rfl : ev = .answer (.unlocked (.crash _)) := he
    exact h
  · rfl

/-- Who was granted its lock does not ask for it any more. -/
theorem Consistent.not_acquiring {a : Acquisition} {run : Run Request}
    (h : Consistent autoRefresh (some grant) (.owned s (.acquiring a run))) : False := by
  have hs := h.fits
  simp [Session.Fits, h.activity_fits.1] at hs

/-! ## Where the error is -/

theorem Recalls.setRenewer (h : Recalls e lost l) (hr : l.renewer? = some r) (r' : Renewer)
    (hsame : r.isAlive = false → r' = r) : Recalls e lost (l.setRenewer r') := by
  have hkeep : ∀ s : Session, s.renewer = some r → s.Recalls e lost →
      Session.Recalls { s with renewer := some r' } e lost := by
    intro s hs hrecalls
    cases lost with
    | true => exact absurd (hs.symm.trans hrecalls) (by simp)
    | false =>
        obtain ⟨x, hx, hf⟩ := hrecalls
        obtain rfl := Option.some.inj (hs.symm.trans hx)
        exact ⟨r', rfl, (hsame hf.isAlive).symm ▸ hf⟩
  cases l with
  | owned s activity =>
      cases activity with
      | unlocking renewal run => exact h
      | _ => exact fun ho => hkeep s hr (h ho)
  | _ => trivial

/-- The call that gives the lock back begins with the error. -/
theorem recalls_of_awaitsEnd (hc : Consistent autoRefresh g (.owned s activity))
    (h : Recalls e lost (.owned s activity)) (ha : AwaitsEnd s activity ev t) :
    Recalls e lost t.awaitRenewer.next := by
  have hs : s.Recalls e lost := by
    have ho := owesUnlock_of_awaitsEnd hc ha
    cases ha with
    | first _ | again => exact h ho
  obtain ⟨x, hx⟩ := Option.ne_none_iff_exists'.1 (hc.handle_ne_none ha)
  obtain ⟨t', hnext⟩ := (hs.awaitsEnd ha).awaitRenewer hx
  rw [hnext]
  rfl

/-- A step leaves the error where it was, hands it to the call that gives
the lock back, or loses it together with that call. -/
theorem recalls_of_step (hc : Consistent autoRefresh (some grant) l) (h : Recalls e lost l) :
    Recalls e (lost || Moment.cutsUnlock ⟨now, ev, l⟩) (l.step now ev).next := by
  have hm := step_move l now ev
  generalize hstep : l.step now ev = step at hm ⊢
  cases hm with
  | stay hig =>
      rw [cutsUnlock_of_ignores hig, Bool.or_false]
      exact h
  | renewerWakes hr =>
      rw [show Moment.cutsUnlock _ = false by simp [Moment.cutsUnlock], Bool.or_false]
      exact h.setRenewer hr _ fun hover => congrArg Step.next (Renewer.wake_over hover)
  | renewerAnswered reply hr =>
      rw [show Moment.cutsUnlock _ = false by simp [Moment.cutsUnlock], Bool.or_false]
      exact h.setRenewer hr _ fun hover => congrArg Step.next (Renewer.answer_over hover)
  | releaseWaits ha _ _ | releaseBreaks ha _ _ | releaseUnlocks ha _ _ | releaseLost ha _ =>
      -- the renewer has ended with the error or is gone, so the call begins at once
      rw [← hstep, step_of_awaitsEnd ha,
        show Moment.cutsUnlock _ = false by cases ha <;> rfl, Bool.or_false]
      exact recalls_of_awaitsEnd hc h ha
  | acquireRetried _ | acquirePaused _ _ | granted _ _ | notGranted _ _ _ _ | acquireCrashed _ =>
      exact hc.not_acquiring.elim
  | acquireBegun hb =>
      exact fun ho => absurd ho (by simp [Session.owesUnlock])
  | acquireRefused _ | releaseIdle _ => simpa [Moment.cutsUnlock] using h
  | unlockRetried _ => simpa [Moment.cutsUnlock, Recalls] using h
  | unlockPaused _ hp =>
      obtain ⟨-, -, status, rfl⟩ := Run.answer_pausing hp
      simpa [Moment.cutsUnlock, Recalls] using h
  | released _ _ _ =>
      exact fun ho => absurd ho (by simp [Session.owesUnlock, Session.markReleased])
  | unlockCrashed hw =>
      intro _
      simpa [Moment.cutsUnlock, hw, Session.Recalls] using hc.activity_fits.2.1
  | @abandoned s activity =>
      cases activity with
      | unlocking renewal run =>
          intro _
          simpa [Moment.cutsUnlock, Session.Recalls] using hc.activity_fits.2.1
      | _ => simpa [Moment.cutsUnlock, Recalls, Step.stay] using h
  | _ => trivial

/-! ## The end of a renewer before the release -/

/-- As long as the lock is held, nobody has taken over the end
of its renewer. -/
def IsUnjoined : Lifecycle → Prop
  | .owned s _ => s.state = .held → ∀ r, s.renewer = some r → r.joined = false
  | _ => True

theorem IsUnjoined.setRenewer (h : IsUnjoined l) (hr : l.renewer? = some r) {r' : Renewer}
    (hflag : r'.joined = r.joined) : IsUnjoined (l.setRenewer r') := by
  cases l with
  | owned s activity =>
      intro hst x hx
      obtain rfl := Option.some.inj hx
      exact hflag.trans (h hst r hr)
  | _ => trivial

theorem isUnjoined_of_move (hc : Consistent autoRefresh g l) (h : IsUnjoined l)
    (hm : Move now l ev step) : IsUnjoined step.next := by
  cases hm with
  | renewerWakes hr => exact h.setRenewer hr Renewer.wake_flags.2
  | renewerAnswered reply hr => exact h.setRenewer hr Renewer.answer_flags.2
  | @granted s a run reply key log _ _ =>
      -- the renewer of a lock that was just granted is new
      intro _ r hr
      have hs := hc.fits
      simp only [Session.Fits, hc.activity_fits.1] at hs
      rw [Session.grant_renewer, hs.2.1] at hr
      split at hr
      · rw [← Option.some.inj hr]
      · simp at hr
  | releaseWaits ha _ _ | releaseBreaks ha _ _ | releaseUnlocks ha _ _ =>
      intro hst
      have hrel : _ = SessionState.releasing := (hc.awaitsEnd ha).activity_fits
      exact absurd (hrel.symm.trans hst) (by simp)
  | acquireBegun _ | notGranted _ _ _ _ | releaseLost _ _ | released _ _ _ =>
      intro hst
      simp [Session.refuse, Session.markReleased] at hst
  | stay _ | acquireRefused _ | acquireRetried _ | acquirePaused _ _ | acquireCrashed _
  | releaseIdle _ | unlockRetried _ | unlockPaused _ _ | unlockCrashed _ | abandoned => exact h
  | _ => trivial

theorem isUnjoined_of_run (policy : RetryPolicy) (autoRefresh : Bool) (es : List (Nat × Event)) :
    IsUnjoined ((new policy autoRefresh).after es) := by
  refine run_induction (P := fun _ l => IsUnjoined l) (by simp [IsUnjoined, new]) ?_ es
  intro es now ev ih
  exact isUnjoined_of_move (consistent_run policy autoRefresh es) ih (step_move _ _ _)

/-! ## The whole -/

/-- From the failure of the renewal on, the error is where it is to be,
wherever a run leads. -/
theorem recalls_of_run (hc : Consistent autoRefresh (some grant) l) (h : Recalls e false l)
    (es : List (Nat × Event)) :
    Consistent autoRefresh (some grant) (l.after es) ∧
      Recalls e ((l.moments es).any Moment.cutsUnlock) (l.after es) := by
  refine run_induction (P := fun ms l => Consistent autoRefresh (some grant) l ∧
    Recalls e (ms.any Moment.cutsUnlock) l) ⟨hc, h⟩ ?_ es
  rintro es now ev ⟨hc, h⟩
  refine ⟨consistent_keep hc (step_move _ _ _) hc.grant?_of_granted, ?_⟩
  rw [List.any_append, List.any_cons, List.any_nil, Bool.or_false]
  exact recalls_of_step hc h

/-- A release that returns because the lock was taken back reports the error
that came with its call. -/
theorem result_of_acceptsUnlock {m : Moment} (hc : Consistent autoRefresh (some grant) m.before)
    (h : Recalls e lost m.before) (ha : m.acceptsUnlock = true) :
    m.result = some (.released
      (if lost then .ok () else .error (.renewalFailed grant.name e))) := by
  obtain ⟨now, ev, l⟩ := m
  simp only [Moment.acceptsUnlock] at ha
  split at ha
  · rename_i s renewal run response
    simp only [Bool.and_eq_true, Option.isNone_iff_eq_none] at ha
    obtain ⟨⟨hw, herror⟩, hunlocked⟩ := ha
    obtain ⟨hst, -, x, hx, hreq⟩ := hc.activity_fits
    obtain ⟨grant', hg, hrequest⟩ := hc.unlockRequest hst hx
    obtain rfl := Option.some.inj hg
    have hname : run.request.name = grant.name := by
      rw [hreq, hrequest]
      rfl
    have hanswer : run.answer now (.response response) = (.finished (.ok response), []) := by
      have hd : decision response = none := herror
      simp only [Run.answer, Invocation.settle, hd]
    have hresult : Moment.result ⟨now, .answer (.unlocked (.response response)),
        .owned s (.unlocking renewal run)⟩ = some (.released
          (renewal.elim (.ok ()) fun e => .error (.renewalFailed run.request.name e))) := by
      simp [Moment.result, Moment.step, Lifecycle.step, Activity.answer, hw, hanswer,
        Session.concludeRelease, hunlocked, Step.after, Step.returning, Step.lift]
    have hrenewal : renewal = if lost then none else some e := h
    rw [hresult, hname, hrenewal]
    cases lost <;> rfl
  · simp at ha

/-- When the renewal of a lock that is held has failed, the release that
learns that the service took the lock back reports the failure, however many
releases were given up before, unless one of these was cut off while its
call was under way; then nothing is reported. -/
theorem renewal_failure_reported (policy : RetryPolicy) (autoRefresh : Bool)
    (es es' : List (Nat × Event)) (s : Session) (activity : Activity) (r : Renewer)
    (e : ClientError) (hl : (new policy autoRefresh).after es = .owned s activity)
    (hst : s.state = .held) (hr : s.renewer = some r) (he : r.stage = .ended (some e))
    (ms₁ ms₂ : List Moment) (m : Moment)
    (hsplit : (Lifecycle.owned s activity).moments es' = ms₁ ++ m :: ms₂)
    (ha : m.acceptsUnlock = true) :
    ∃ grant, granted ((new policy autoRefresh).moments es) = some grant ∧
      m.result = some (.released (if ms₁.any Moment.cutsUnlock then .ok ()
        else .error (.renewalFailed grant.name e))) := by
  have hc := consistent_run policy autoRefresh es
  have hunjoined := isUnjoined_of_run policy autoRefresh es
  rw [hl] at hc hunjoined
  have hs := hc.fits
  simp only [Session.Fits, hst] at hs
  obtain ⟨grant, -, hg, -⟩ := hs
  rw [hg] at hc
  have hrecalls : Recalls e false (.owned s activity) := by
    have hfailed : r.HasFailed e := ⟨he, hunjoined hst r hr⟩
    cases activity with
    | unlocking renewal run => exact absurd (hst.symm.trans hc.activity_fits.1) (by simp)
    | _ => exact fun _ => ⟨r, hr, hfailed⟩
  obtain ⟨es₁, es₂, -, rfl, hb, -⟩ := moments_split hsplit
  obtain ⟨hcm, hm⟩ := recalls_of_run hc hrecalls es₁
  rw [← hb] at hcm hm
  exact ⟨grant, hg, result_of_acceptsUnlock hcm hm ha⟩

/-- A renewal that the service refuses while the lock is held. -/
def refusedRun : List (Nat × Event) :=
  grantedRun ++ [(0, .wake .renewer), (10000, .wake .renewer),
    (10000, .answer (.refreshed (.response
      { name := "job-42", error := some (.ofCode .invalidLockKey "invalid lock key") })))]

/-- The service takes the lock back. -/
def takenBack : Event := .answer (.unlocked (.response { unlocked := true, name := "job-42" }))

/-- A release whose call is repeated before the service takes the lock back. -/
theorem renewal_failure_reported_after_retry :
    ∃ s r, (new {} true).after refusedRun = .owned s .resting ∧ s.state = .held ∧
      s.renewer = some r ∧ r.stage = .ended (some .invalidLockKey) ∧
      ∃ ms m, (Lifecycle.owned s .resting).moments [(10001, .release),
          (10002, .answer (.unlocked (.failure { code := .unavailable }))),
          (15002, .wake .holder), (15003, takenBack)] = ms ++ [m] ∧
        m.result = some (.released (.error (.renewalFailed "job-42" .invalidLockKey))) := by
  refine ⟨_, _, rfl, rfl, rfl, rfl, [_, _, _], _, rfl, ?_⟩
  obtain ⟨grant, hg, hresult⟩ := renewal_failure_reported {} true refusedRun
    [(10001, .release), (10002, .answer (.unlocked (.failure { code := .unavailable }))),
      (15002, .wake .holder), (15003, takenBack)] _ .resting _ .invalidLockKey rfl rfl rfl rfl
    [_, _, _] [] _ rfl rfl
  obtain rfl : _ = grant := Option.some.inj hg
  exact hresult

/-- A release that is given up while its call is under way takes the failure
with it: the next one returns as if the renewal had not failed. -/
theorem renewal_failure_lost :
    ∃ s r, (new {} true).after refusedRun = .owned s .resting ∧ s.state = .held ∧
      s.renewer = some r ∧ r.stage = .ended (some .invalidLockKey) ∧
      ∃ ms m, (Lifecycle.owned s .resting).moments [(10001, .release), (10101, .abandon),
          (10101, .release), (10601, takenBack)] = ms ++ [m] ∧
        (∀ x ∈ ms, x.result = none) ∧ m.acceptsUnlock = true ∧
        m.result = some (.released (.ok ())) :=
  ⟨_, _, rfl, rfl, rfl, rfl, [_, _, _], _, rfl, by decide, rfl, rfl⟩

end Lifecycle

end DistLock
