import DistLock.Proofs.Lifecycle.Transitions

/-!
# Holding a lock

What others have to know of a session: whether it holds its lock (`IsHeld`),
and for which answer its owner, or its background release, waits (`awaits`).

* A lock is held from the moment it is granted, and only then
  (`isHeld_of_move`); whoever has begun to give it back does not hold it any
  more (`unlock_of_move`).
* A step leaves the wait for an answer as it is or ends it
  (`awaits_of_move`), and what is sent is waited for (`awaits_of_sent`).
-/

namespace DistLock

namespace Request

/-- The request is for a lock. -/
def asks : Request → Bool
  | .lock _ | .tryLock _ => true
  | .refreshLock _ | .unlock _ => false

/-- Who sends the request. -/
def worker : Request → Worker
  | .refreshLock _ => .renewer
  | .lock _ | .tryLock _ | .unlock _ => .holder

theorem worker_of_asks {q : Request} (h : q.asks = true) : q.worker = .holder := by
  cases q <;> simp [asks, worker] at h ⊢

end Request

namespace Acquisition

variable (a : Acquisition)

@[simp] theorem request_asks : a.request.asks = true := by
  unfold request
  split <;> rfl

/-- A request for a lock names the lock that is wished for. -/
@[simp] theorem request_name : a.request.name = a.name := by
  unfold request LockRequest.withWaitTimeout
  split <;> rfl

end Acquisition

namespace Lifecycle

/-- The lock is held, and nobody has begun to give it back. -/
def IsHeld : Lifecycle → Prop
  | .owned s _ => s.state = .held
  | _ => False

/-- The request whose answer the owner, or the background
release, waits for. -/
def awaits : Lifecycle → Option Request
  | .owned _ (.acquiring _ run) => if run.isWaiting then some run.request else none
  | .owned _ (.unlocking _ run) => if run.isWaiting then some (.unlock run.request) else none
  | .owned _ _ => none
  | .background b =>
    match b.stage with
    | .unlocking run => if run.isWaiting then some (.unlock run.request) else none
    | _ => none
  | .gone _ => none

variable {now : Nat} {autoRefresh : Bool} {g : Option Grant} {l : Lifecycle} {e : Event}
  {step : Step Lifecycle OwnerResult} {q : Request}

@[simp] theorem awaits_setRenewer (r : Renewer) : (l.setRenewer r).awaits = l.awaits := by
  cases l with
  | owned s activity => cases activity <;> rfl
  | _ => rfl

/-- There is something to wait for exactly while a call of the
holder is under way. -/
theorem isSome_awaits : l.awaits.isSome = l.isWaiting .holder := by
  cases l with
  | owned s activity =>
      cases activity with
      | acquiring a run =>
          cases hw : run.isWaiting <;> simp [awaits, isWaiting, Activity.isWaiting, hw]
      | unlocking renewal run =>
          cases hw : run.isWaiting <;> simp [awaits, isWaiting, Activity.isWaiting, hw]
      | _ => rfl
  | background b =>
      cases hst : b.stage with
      | unlocking run =>
          cases hw : run.isWaiting <;>
            simp [awaits, isWaiting, BackgroundRelease.isWaiting, hst, hw]
      | _ => simp [awaits, isWaiting, BackgroundRelease.isWaiting, hst]
  | gone r => rfl

/-! ## Waiting -/

/-- A call that is under way stays so until it ends. -/
theorem awaits_of_move (hm : Move now l e step) (h : l.awaits = some q) :
    step.next.awaits = some q ∨ step.next.awaits = none := by
  cases hm with
  | stay _ => exact .inl h
  | renewerWakes _ | renewerAnswered _ _ => exact .inl ((awaits_setRenewer _).trans h)
  | acquireRetried hrun | unlockRetried hrun =>
      -- in the pause before it, nothing is awaited
      simp [awaits, (Run.resume?_eq_some hrun).1] at h
  | backgroundRetried hst hrun => simp [awaits, hst, (Run.resume?_eq_some hrun).1] at h
  | acquirePaused _ hp | unlockPaused _ hp | backgroundPaused _ _ hp =>
      exact .inr (by simp [awaits, (Run.answer_pausing hp).2.1])
  | releaseUnlocks ha _ _ => cases ha <;> simp [awaits] at h
  | backgroundUnlocks ha _ =>
      cases ha with
      | first hst | again hst => simp [awaits, hst] at h
  | acquireBegun _ | acquireRefused _ | releaseIdle _ => simp [awaits] at h
  | _ => exact .inr (by simp [awaits, Step.stay, Session.handOver])

/-- What the owner or the background release sends, it waits for. -/
theorem awaits_of_sent (hm : Move now l e step) (hq : step.sent = some q)
    (hw : q.worker = .holder) : step.next.awaits = some q := by
  cases hm with
  | renewerWakes hr =>
      have hop := (Renewer.wake_sent hq).2
      cases q <;> simp [Request.operation, Request.worker] at hop hw
  | renewerAnswered reply hr => exact absurd (Renewer.answer_sent.symm.trans hq) (by simp)
  | acquireBegun _ => exact hq
  | acquireRetried hrun => simpa [awaits, (Run.resume?_eq_some hrun).2.2] using hq
  | releaseUnlocks _ _ _ => exact hq
  | unlockRetried hrun => simpa [awaits, (Run.resume?_eq_some hrun).2.2] using hq
  | backgroundUnlocks _ _ => exact hq
  | backgroundRetried _ hrun => simpa [awaits, (Run.resume?_eq_some hrun).2.2] using hq
  | _ => exact absurd hq (by simp [Step.stay])

/-- To let go of a session begins no call. -/
theorem awaits_of_drop (h : l.awaits = none) (background : Bool) :
    (l.step now (.drop background)).next.awaits = none := by
  have hm := step_move l now (.drop background)
  generalize l.step now (.drop background) = step at hm ⊢
  cases hm with
  | stay _ => exact h
  | handedOver _ _ | letGo _ => rfl
  | releaseWaits ha _ _ | releaseBreaks ha _ _ | releaseUnlocks ha _ _ | releaseLost ha _ =>
      cases ha

/-- What is awaited is known as long as something is. -/
theorem awaits_of_isWaiting (h : l.awaits = some q ∨ l.awaits = none)
    (hw : l.isWaiting .holder = true) : l.awaits = some q := by
  refine h.resolve_right fun hnone => ?_
  rw [← isSome_awaits, hnone] at hw
  simp at hw

/-- Whoever waits for the answer to a request for a lock is acquiring it. -/
theorem Consistent.acquiring_of_awaits (hc : Consistent autoRefresh g l) (h : l.awaits = some q)
    (hq : q.asks = true) :
    ∃ s a run, l = .owned s (.acquiring a run) ∧ run.isWaiting = true ∧ q = a.request := by
  cases l with
  | owned s activity =>
      cases activity with
      | acquiring a run =>
          simp only [awaits, Option.ite_none_right_eq_some, Option.some.injEq] at h
          obtain ⟨hw, rfl⟩ := h
          exact ⟨s, a, run, rfl, hw, hc.activity_fits.2.2⟩
      | unlocking renewal run =>
          simp only [awaits, Option.ite_none_right_eq_some, Option.some.injEq] at h
          simp [← h.2, Request.asks] at hq
      | _ => simp [awaits] at h
  | background b =>
      cases hst : b.stage with
      | unlocking run =>
          simp only [awaits, hst, Option.ite_none_right_eq_some, Option.some.injEq] at h
          simp [← h.2, Request.asks] at hq
      | _ => simp [awaits, hst] at h
  | gone r => simp [awaits] at h

/-- Nothing was granted to who waits for the answer to a request for a lock. -/
theorem Consistent.eq_none_of_awaits (hc : Consistent autoRefresh g l) (h : l.awaits = some q)
    (hq : q.asks = true) : g = none := by
  obtain ⟨s, a, run, rfl, -, -⟩ := hc.acquiring_of_awaits h hq
  have hs := hc.fits
  simp only [Session.Fits, hc.activity_fits.1] at hs
  exact hs.2.2

/-- An answer with a key grants the lock that was asked for. -/
theorem Consistent.grant?_of_awaits (hc : Consistent autoRefresh g l) (h : l.awaits = some q)
    (hq : q.asks = true) {reply : Reply LockResponse} {key : String}
    (hkey : reply.key? = some key) (now : Nat) :
    ∃ lease, Moment.grant? ⟨now, .answer (.acquired reply), l⟩ = some ⟨q.name, key, lease⟩ := by
  obtain ⟨s, a, run, rfl, hw, rfl⟩ := hc.acquiring_of_awaits h hq
  exact ⟨a.options.lease, by simp [Moment.grant?, hw, hkey]⟩

/-! ## Holding -/

theorem Consistent.granted_of_isHeld (hc : Consistent autoRefresh g l) (h : l.IsHeld) :
    ∃ grant, g = some grant := by
  cases l with
  | owned s activity =>
      have hst : s.state = .held := h
      have hs := hc.fits
      simp only [Session.Fits, hst] at hs
      obtain ⟨grant, -, hg, -⟩ := hs
      exact ⟨grant, hg⟩
  | _ => exact h.elim

/-- A lock is held only from the moment it is granted. -/
theorem isHeld_of_move (hc : Consistent autoRefresh g l) (hm : Move now l e step)
    (hgrant : Moment.grant? ⟨now, e, l⟩ = none) (h : step.next.IsHeld) : l.IsHeld := by
  obtain ⟨grant, hg⟩ := (consistent_keep hc hm hgrant).granted_of_isHeld h
  cases hn : step.next with
  | owned s' activity' =>
      rw [hn] at h
      have hst : s'.state = .held := h
      obtain ⟨s, activity, rfl, hsame | ⟨hnext, -⟩⟩ := state_of_move hc hm hn
      · exact hsame.symm.trans hst
      · -- what was granted was granted before, so the session was not acquiring any more
        rw [hst] at hnext
        have hs := hc.fits
        cases hbefore : s.state <;> rw [hbefore] at hnext
        case acquiring => simp [Session.Fits, hbefore, hg] at hs
        all_goals cases hnext
  | _ => simp [hn, IsHeld] at h

theorem not_isHeld_of_isUnlocking (hc : Consistent autoRefresh g l) (h : l.isUnlocking = true) :
    ¬ l.IsHeld := by
  cases l with
  | owned s activity =>
      cases activity with
      | unlocking renewal run =>
          intro hst
          exact absurd (hc.activity_fits.1.symm.trans hst) (by simp)
      | _ => simp [isUnlocking] at h
  | _ => exact id

/-- What is sent to give a lock back gives back what was granted, and the
lock is not held any more. -/
theorem unlock_of_move (hc : Consistent autoRefresh g l) (hm : Move now l e step)
    {u : UnlockRequest} (hu : step.sent = some (.unlock u)) :
    (∃ grant, g = some grant ∧ u = grant.unlockRequest) ∧ ¬ step.next.IsHeld := by
  obtain ⟨hgrant, -, hun, -⟩ := (sends_of_move hc hm hu).unlock
  exact ⟨hgrant, not_isHeld_of_isUnlocking (consistent_move hc hm) hun⟩

/-- A locked handle that can be read while the lock is not being given back
shows what was granted. -/
theorem Consistent.shows_of_isHeld {s : Session} {activity : Activity}
    (hc : Consistent autoRefresh g (.owned s activity)) (hst : s.state = .held)
    {x : LockHandle} (hx : s.handle = some x) : ∃ grant, g = some grant ∧ x.Shows grant := by
  have hs := hc.fits
  simp only [Session.Fits, hst] at hs
  obtain ⟨grant, y, hg, hy, hshow, -⟩ := hs
  obtain rfl := Option.some.inj (hx.symm.trans hy)
  exact ⟨grant, hg, hshow⟩

/-- A session that was refused its lock has no locked handle. -/
theorem Consistent.hides_of_notHeld {s : Session} {activity : Activity}
    (hc : Consistent autoRefresh g (.owned s activity)) (hst : s.state = .notHeld)
    {x : LockHandle} (hx : s.handle = some x) : x.Hides := by
  have hs := hc.fits
  simp only [Session.Fits, hst] at hs
  obtain ⟨y, hy, hhide, -⟩ := hs
  obtain rfl := Option.some.inj (hx.symm.trans hy)
  exact hhide

end Lifecycle

end DistLock
