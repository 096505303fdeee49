import DistLock.Proofs.Lifecycle.Invariant

/-!
# What is sent

An event sends one request at most, and there are few reasons to send one: a
renewal is due and nobody asked the renewer to end, or an invocation of the
holder begins, or goes on after a pause.

* `isAcquiring` and `isUnlocking` tell that an invocation of the holder is
  under way, its pauses included, and `Moment.beginsAcquire` and
  `Moment.beginsUnlock` that one begins;
* `Sends` lists the reasons, and `sends_of_move` says that there are no others.
-/

namespace DistLock

namespace Lifecycle

/-- An invocation that asks for the lock is under way. -/
def isAcquiring : Lifecycle → Bool
  | .owned _ (.acquiring _ _) => true
  | _ => false

/-- An invocation that gives the lock back is under way. -/
def isUnlocking : Lifecycle → Bool
  | .owned _ (.unlocking _ _) => true
  | .background b =>
    match b.stage with
    | .unlocking _ => true
    | _ => false
  | _ => false

@[simp] theorem isUnlocking_setRenewer (l : Lifecycle) (r : Renewer) :
    (l.setRenewer r).isUnlocking = l.isUnlocking := by
  cases l with
  | owned s activity => cases activity <;> rfl
  | background b => rfl
  | gone x => rfl

end Lifecycle

theorem exists_unlock {q : Option Request} (h : q.any (·.operation == .unlock) = true) :
    ∃ u, q = some (.unlock u) := by
  obtain ⟨r, rfl, hop⟩ := (Option.any_eq_true _ _).1 h
  cases r with
  | unlock u => exact ⟨u, rfl⟩
  | _ => simp [Request.operation] at hop

namespace Moment

/-- A request of the operation is sent. -/
def sends (m : Moment) (p : Operation) : Bool := m.sent.any (·.operation == p)

/-- The first attempt of an invocation that asks for the lock. -/
def beginsAcquire (m : Moment) : Bool :=
  (m.sends .lock || m.sends .tryLock) && !m.before.isAcquiring

/-- The first attempt of an invocation that gives the lock back. -/
def beginsUnlock (m : Moment) : Bool := m.sends .unlock && !m.before.isUnlocking

variable {m : Moment}

theorem sends_eq_true {p : Operation} :
    m.sends p = true ↔ ∃ q, m.sent = some q ∧ q.operation = p := by
  simp [sends, Option.any_eq_true]

theorem beginsAcquire_eq_true : m.beginsAcquire = true ↔
    (∃ q, m.sent = some q ∧ (q.operation = .lock ∨ q.operation = .tryLock)) ∧
      m.before.isAcquiring = false := by
  simp only [beginsAcquire, Bool.and_eq_true, Bool.or_eq_true, sends_eq_true, Bool.not_eq_true',
    and_or_left, exists_or]

theorem exists_unlock_of_sends (h : m.sends .unlock = true) :
    ∃ u, m.sent = some (.unlock u) := exists_unlock h

end Moment

namespace Lifecycle

/-- `Sends g l l' q`: of a life to which `g` was granted, a step from `l` to
`l'` sends `q`. -/
inductive Sends (g : Option Grant) : Lifecycle → Lifecycle → Request → Prop
  | renewal {l r r' q} : l.renewer? = some r → r.cancelled = false →
      q.operation = .refreshLock → Sends g l (l.setRenewer r') q
  | firstAcquire {s a run} : s.state = .idle →
      Sends g (.owned s .resting)
        (.owned { s with state := .acquiring } (.acquiring a run)) a.request
  | acquireAgain {s a run run'} : run.isWaiting = false →
      Sends g (.owned s (.acquiring a run)) (.owned s (.acquiring a run')) a.request
  | firstUnlock {l l' grant} : g = some grant → l.isUnlocking = false → l'.isUnlocking = true →
      l.isWaiting .holder = false → RenewalOver l.renewer? → l'.renewer? = none →
      Sends g l l' (.unlock grant.unlockRequest)
  | unlockAgain {l l' grant} : g = some grant → l.isUnlocking = true → l'.isUnlocking = true →
      l.isWaiting .holder = false → l.renewer? = none → l'.renewer? = none →
      Sends g l l' (.unlock grant.unlockRequest)

variable {now : Nat} {autoRefresh : Bool} {g : Option Grant} {l : Lifecycle} {e : Event}
  {step : Step Lifecycle OwnerResult} {q : Request}

/-- What is sent to give back a lock gives back what was granted, when no
call is under way and the renewer is over. -/
theorem Sends.unlock {l' : Lifecycle} {u : UnlockRequest} (h : Sends g l l' (.unlock u)) :
    (∃ grant, g = some grant ∧ u = grant.unlockRequest) ∧ l.isWaiting .holder = false ∧
      l'.isUnlocking = true ∧ RenewalOver l.renewer? ∧ l'.renewer? = none := by
  generalize hq : Request.unlock u = q at h
  cases h with
  | renewal _ _ hop => simp [← hq, Request.operation] at hop
  | @firstAcquire s a run _ | @acquireAgain s a run run' _ =>
      exact absurd hq (by unfold Acquisition.request; split <;> simp)
  | firstUnlock hg _ hun hwait hover hnone =>
      exact ⟨⟨_, hg, Request.unlock.inj hq⟩, hwait, hun, hover, hnone⟩
  | unlockAgain hg _ hun hwait hover hnone =>
      exact ⟨⟨_, hg, Request.unlock.inj hq⟩, hwait, hun, by simp [RenewalOver, hover], hnone⟩

/-- A renewal is sent only by a renewer that nobody asked to end. -/
theorem Sends.refreshLock {l' : Lifecycle} (h : Sends g l l' q) (hop : q.operation = .refreshLock) :
    ∃ r, l.renewer? = some r ∧ r.cancelled = false := by
  cases h with
  | renewal hr hc _ => exact ⟨_, hr, hc⟩
  | @firstAcquire s a run _ | @acquireAgain s a run run' _ =>
      unfold Acquisition.request at hop
      split at hop <;> simp [Request.operation] at hop
  | firstUnlock _ _ _ _ _ _ | unlockAgain _ _ _ _ _ _ => simp [Request.operation] at hop

/-- Being asked to end does not make a renewer end, nor break it down. -/
theorem renewalOver_of_cancel {r : Option Renewer} (h : RenewalOver (r.map (·.cancel))) :
    RenewalOver r := by
  rintro x rfl
  exact h x.cancel rfl

theorem renewalOver_of_awaitsEnd {s t : Session} {activity : Activity}
    (ha : AwaitsEnd s activity e t) (h : RenewalOver t.renewer) : RenewalOver s.renewer := by
  cases ha with
  | first _ => exact renewalOver_of_cancel h
  | again => exact h

theorem renewalOver_of_backgroundAwaits {b b' : BackgroundRelease} (ha : b.AwaitsEnd b')
    (h : RenewalOver b'.renewer) : RenewalOver b.renewer := by
  cases ha with
  | first _ => exact renewalOver_of_cancel h
  | again _ => exact h

/-- What the owner sends to give the lock back is what was granted. -/
theorem Consistent.unlockRequest {s : Session} {activity : Activity}
    (h : Consistent autoRefresh g (.owned s activity)) (hst : s.state = .releasing)
    {x : LockHandle} (hx : s.handle = some x) :
    ∃ grant, g = some grant ∧ (⟨x.name, x.secret⟩ : UnlockRequest) = grant.unlockRequest := by
  have hs := h.fits
  simp only [Session.Fits, hst] at hs
  obtain ⟨grant, y, hg, hy, hshow⟩ := hs
  obtain rfl : x = y := by rwa [hx, Option.some.injEq] at hy
  exact ⟨grant, hg, hshow.unlockRequest⟩

theorem sends_of_move (h : Consistent autoRefresh g l) (hm : Move now l e step)
    (hq : step.sent = some q) : Sends g l step.next q := by
  cases hm with
  | renewerWakes hr =>
      obtain ⟨hc, hop⟩ := Renewer.wake_sent hq
      exact .renewal hr hc hop
  | renewerAnswered reply hr => exact absurd (Renewer.answer_sent.symm.trans hq) (by simp)
  | acquireBegun hb =>
      obtain ⟨-, hst, -⟩ := Session.begin_eq_ok hb
      obtain rfl := Option.some.inj hq
      exact .firstAcquire hst
  | acquireRetried hrun =>
      obtain ⟨hpause, hsame, -⟩ := Run.resume?_eq_some hrun
      obtain rfl := Option.some.inj hq
      rw [hsame, h.activity_fits.2.2]
      exact .acquireAgain hpause
  | @releaseUnlocks s activity e t x renewal log ha hover hx =>
      have ht := h.awaitsEnd ha
      obtain ⟨grant, hg, hreq⟩ := ht.unlockRequest ht.activity_fits hx
      obtain rfl := Option.some.inj hq
      have hbefore := renewalOver_of_awaitsEnd ha hover
      rw [hreq]
      cases ha with
      | first _ | again => exact .firstUnlock hg rfl rfl rfl hbefore rfl
  | unlockRetried hrun =>
      obtain ⟨hpause, hsame, -⟩ := Run.resume?_eq_some hrun
      obtain ⟨hst, hr, x, hx, hrequest⟩ := h.activity_fits
      obtain ⟨grant, hg, hreq⟩ := h.unlockRequest hst hx
      obtain rfl := Option.some.inj hq
      rw [hsame, hrequest, hreq]
      exact .unlockAgain hg rfl rfl hpause hr hr
  | @backgroundUnlocks b t log ha hover =>
      obtain ⟨-, grant, hg, hreq, -⟩ := h.backgroundAwaits ha
      obtain rfl := Option.some.inj hq
      have hbefore := renewalOver_of_backgroundAwaits ha hover
      rw [show t.request = grant.unlockRequest from hreq]
      cases ha with
      | first hst | again hst =>
          exact .firstUnlock hg (by simp [isUnlocking, hst]) rfl
            (by simp [Lifecycle.isWaiting, BackgroundRelease.isWaiting, hst]) hbefore rfl
  | @backgroundRetried b run run' hst hrun =>
      obtain ⟨hpause, hsame, -⟩ := Run.resume?_eq_some hrun
      obtain ⟨-, grant, hg, -, hb⟩ := h
      simp only [hst] at hb
      obtain rfl := Option.some.inj hq
      rw [hsame, hb.2]
      exact .unlockAgain hg (by simp [isUnlocking, hst]) rfl
        (by simp [Lifecycle.isWaiting, BackgroundRelease.isWaiting, hst, hpause]) hb.1 hb.1
  | _ => exact absurd hq (by simp [Step.stay])

/-- The same of a moment of a run, with what was granted before it. -/
theorem sends_of_split {policy : RetryPolicy} {es : List (Nat × Event)} {ms₁ ms₂ : List Moment}
    {m : Moment} (h : (new policy autoRefresh).moments es = ms₁ ++ m :: ms₂)
    (hq : m.sent = some q) : Sends (granted ms₁) m.before m.after q :=
  sends_of_move (consistent_before h) (step_move _ _ _) hq

end Lifecycle

end DistLock
