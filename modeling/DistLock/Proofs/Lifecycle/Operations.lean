import DistLock.Proofs.Lifecycle.Accounting
import DistLock.Proofs.Parties.Party

/-!
# Operations of an owner

An operation of an owner is under way until it comes to a result, and the
owner rests then. The three lemmas `Seeks.of_move`, `Yields.of_move` and
`Rests.release` say so of the acquisition, of the release, and of the
beginning of the release; a session that was dropped comes to nothing any
more (`result_of_dropped`).
-/

namespace DistLock.Lifecycle

/-- The session is fresh, or its owner waits for the lock. -/
def Seeks (l : Lifecycle) : Prop :=
  ∃ s activity, l = .owned s activity ∧
    ((activity = .resting ∧ s.state = .idle) ∨ ∃ a run, activity = .acquiring a run)

/-- The owner is about to give the lock back. -/
def Yields (l : Lifecycle) : Prop :=
  ∃ s activity, l = .owned s activity ∧
    (activity = .stopping ∨ ∃ renewal run, activity = .unlocking renewal run)

/-- Nothing is under way. -/
def IsResting (l : Lifecycle) : Prop := ∃ s, l = .owned s .resting

variable {now : Nat} {autoRefresh : Bool} {g : Option Grant} {l : Lifecycle} {e : Event}
  {step : Step Lifecycle OwnerResult}

theorem Seeks.setRenewer (h : Seeks l) (r : Renewer) : Seeks (l.setRenewer r) := by
  obtain ⟨s, activity, rfl, hact⟩ := h
  exact ⟨{ s with renewer := some r }, activity, rfl, hact⟩

theorem Yields.setRenewer (h : Yields l) (r : Renewer) : Yields (l.setRenewer r) := by
  obtain ⟨s, activity, rfl, hact⟩ := h
  exact ⟨{ s with renewer := some r }, activity, rfl, hact⟩

/-- An acquisition goes on, or comes to its end. -/
theorem Seeks.of_move (h : Seeks l) (hm : Move now l e step)
    (he : (∃ a, e = .acquire a) ∨ e.isAnswer = true ∨ ∃ w, e = .wake w) :
    (step.result = none ∧ Seeks step.next) ∨
      ∃ o, step.result = some (.acquired o) ∧ IsResting step.next := by
  cases hm with
  | stay _ => exact .inl ⟨rfl, h⟩
  | renewerWakes _ | renewerAnswered _ _ => exact .inl ⟨rfl, h.setRenewer _⟩
  | acquireRefused _ => exact .inr ⟨_, rfl, _, rfl⟩
  | acquireBegun _ => exact .inl ⟨rfl, _, _, rfl, .inr ⟨_, _, rfl⟩⟩
  | acquireRetried _ | acquirePaused _ _ => exact .inl ⟨rfl, _, _, rfl, .inr ⟨_, _, rfl⟩⟩
  | granted _ _ | notGranted _ _ _ _ | acquireCrashed _ => exact .inr ⟨_, rfl, _, rfl⟩
  | releaseWaits ha _ _ | releaseBreaks ha _ _ | releaseUnlocks ha _ _ | releaseLost ha _ =>
      cases ha with
      | first _ => simp [Event.isAnswer] at he
      | again =>
          -- who waits for the end of a renewer does not seek a lock
          obtain ⟨s, activity, hl, hact⟩ := h
          obtain ⟨-, rfl⟩ := Lifecycle.owned.inj hl
          simp at hact
  | releaseIdle _ | abandoned | handedOver _ _ | letGo _ => simp [Event.isAnswer] at he
  | unlockRetried _ | unlockPaused _ _ | released _ _ _ | unlockCrashed _ =>
      obtain ⟨s, activity, hl, hact⟩ := h
      obtain ⟨-, rfl⟩ := Lifecycle.owned.inj hl
      simp at hact
  | backgroundWaits _ _ _ | backgroundBreaks _ _ _ | backgroundUnlocks _ _
  | backgroundRetried _ _ | backgroundPaused _ _ _ | backgroundDone _ _ =>
      obtain ⟨s, activity, hl, -⟩ := h
      simp at hl

/-- A release goes on, or comes to its end. -/
theorem Yields.of_move (h : Yields l) (hm : Move now l e step)
    (he : e.isAnswer = true ∨ ∃ w, e = .wake w) :
    (step.result = none ∧ Yields step.next) ∨
      ∃ o, step.result = some (.released o) ∧ IsResting step.next := by
  cases hm with
  | stay _ => exact .inl ⟨rfl, h⟩
  | renewerWakes _ | renewerAnswered _ _ => exact .inl ⟨rfl, h.setRenewer _⟩
  | unlockRetried _ | unlockPaused _ _ => exact .inl ⟨rfl, _, _, rfl, .inr ⟨_, _, rfl⟩⟩
  | released _ _ _ | unlockCrashed _ => exact .inr ⟨_, rfl, _, rfl⟩
  | releaseWaits _ _ _ => exact .inl ⟨rfl, _, _, rfl, .inl rfl⟩
  | releaseUnlocks _ _ _ => exact .inl ⟨rfl, _, _, rfl, .inr ⟨_, _, rfl⟩⟩
  | releaseBreaks _ _ _ | releaseLost _ _ => exact .inr ⟨_, rfl, _, rfl⟩
  | acquireRefused _ | acquireBegun _ | releaseIdle _ | abandoned | handedOver _ _ | letGo _ =>
      simp [Event.isAnswer] at he
  | acquireRetried _ | acquirePaused _ _ | granted _ _ | notGranted _ _ _ _ | acquireCrashed _ =>
      obtain ⟨s, activity, hl, hact⟩ := h
      obtain ⟨-, rfl⟩ := Lifecycle.owned.inj hl
      simp at hact
  | backgroundWaits _ _ _ | backgroundBreaks _ _ _ | backgroundUnlocks _ _
  | backgroundRetried _ _ | backgroundPaused _ _ _ | backgroundDone _ _ =>
      obtain ⟨s, activity, hl, -⟩ := h
      simp at hl

/-- A release begins, and is over at once where there is
nothing to give back. -/
theorem Rests.release {x : LockHandle} (h : Rests x l) (hm : Move now l .release step) :
    (step.result = none ∧ Yields step.next) ∨
      ∃ o, step.result = some (.released o) ∧ IsResting step.next := by
  obtain ⟨s, rfl, -⟩ := h
  cases hm with
  | stay hig => exact absurd rfl hig
  | releaseIdle _ => exact .inr ⟨_, rfl, _, rfl⟩
  | releaseWaits _ _ _ => exact .inl ⟨rfl, _, _, rfl, .inl rfl⟩
  | releaseUnlocks _ _ _ => exact .inl ⟨rfl, _, _, rfl, .inr ⟨_, _, rfl⟩⟩
  | releaseBreaks _ _ _ | releaseLost _ _ => exact .inr ⟨_, rfl, _, rfl⟩

/-- While its owner does nothing, a session at rest comes to nothing. -/
theorem Rests.result {x : LockHandle} (h : Rests x l) (hm : Move now l e step)
    (he : e.isAnswer = true ∨ ∃ w, e = .wake w) : step.result = none := by
  obtain ⟨s, rfl, -⟩ := h
  cases hm with
  | stay _ | renewerWakes _ | renewerAnswered _ _ => rfl
  | releaseWaits ha _ _ | releaseBreaks ha _ _ | releaseUnlocks ha _ _ | releaseLost ha _ =>
      cases ha with
      | first _ => simp [Event.isAnswer] at he
  | acquireRefused _ | acquireBegun _ | releaseIdle _ | abandoned | handedOver _ _ | letGo _ =>
      simp [Event.isAnswer] at he

/-! ## After the drop -/

/-- Nobody learns anything of a session that was dropped. -/
theorem result_of_dropped (h : IsDropped l) (hm : Move now l e step) : step.result = none := by
  cases l with
  | owned s activity => exact h.elim
  | background b => cases hm <;> rfl
  | gone r => cases hm <;> rfl

theorem isDropped_of_drop (l : Lifecycle) (now : Nat) (background : Bool) :
    IsDropped (l.step now (.drop background)).next :=
  isDropped_of_move (step_move _ _ _) (.inr ⟨background, rfl⟩)

theorem sent_of_drop (l : Lifecycle) (now : Nat) (background : Bool) :
    (l.step now (.drop background)).sent = none := by
  have hm := step_move l now (.drop background)
  generalize l.step now (.drop background) = step at hm
  cases hm with
  | releaseWaits ha _ _ | releaseBreaks ha _ _ | releaseUnlocks ha _ _ | releaseLost ha _ =>
      cases ha
  | _ => rfl

/-- A session that was let go stays so. -/
theorem gone_of_move {r : Option Renewer} (hm : Move now (.gone r) e step) :
    ∃ r', step.next = .gone r' := by
  cases hm <;> exact ⟨_, rfl⟩

/-- The release of a dropped session stays one. -/
theorem background_of_move {b : BackgroundRelease} (hm : Move now (.background b) e step) :
    ∃ b', step.next = .background b' := by
  cases hm <;> exact ⟨_, rfl⟩

theorem gone_of_drop {s : Session} {activity : Activity} (howes : s.owesUnlock = false)
    (now : Nat) :
    (Lifecycle.step (.owned s activity) now (.drop true)).next =
      .gone (s.renewer.map (·.cancel)) := by
  show (s.drop true).next = _
  unfold Session.drop
  rw [howes]
  rfl

theorem background_of_drop {s : Session} {activity : Activity} {x : LockHandle}
    (howes : s.owesUnlock = true) (hx : s.handle = some x) (now : Nat) :
    (Lifecycle.step (.owned s activity) now (.drop true)).next = .background (s.handOver x) := by
  show (s.drop true).next = _
  unfold Session.drop
  rw [howes, hx]
  rfl

/-! ## What an acquisition learns -/

/-- The handle is locked just when the lock was granted. -/
theorem locked_of_acquired {x : LockHandle} (hm : Move now l e step)
    (hr : step.result = some (.acquired (.ok x))) :
    x.locked = (Moment.grant? ⟨now, e, l⟩).isSome := by
  cases hm with
  | @granted s a run reply key log hw hkey =>
      obtain rfl : LockHandle.held a.name key now = x := by simpa using hr
      simp [Moment.grant?, hw, hkey, LockHandle.held]
  | @notGranted s a run reply log outcome _ hkey _ hout =>
      obtain rfl : outcome = .ok x := by simpa using hr
      rw [grant?_of_key hkey]
      rcases hout with hout | ⟨err, -, hout⟩
      · obtain rfl := Outcome.ok.inj hout
        rfl
      · simp at hout
  | _ => exact absurd hr (by simp [Step.stay, Step.silent])

/-- An acquisition that fails is granted nothing. -/
theorem grant?_of_failed {err : ClientError} (hm : Move now l e step)
    (hr : step.result = some (.acquired (.error err))) :
    Moment.grant? ⟨now, e, l⟩ = none := by
  cases hm with
  | acquireRefused _ => exact grant?_of_event (by simp)
  | granted _ _ => simp at hr
  | notGranted _ hkey _ _ => exact grant?_of_key hkey
  | _ => exact absurd hr (by simp [Step.stay, Step.silent])

/-- Whoever seeks a lock was not granted it. -/
theorem Seeks.granted (h : Seeks l) (hc : Consistent autoRefresh g l) : g = none := by
  obtain ⟨s, activity, rfl, ⟨rfl, hst⟩ | ⟨a, run, rfl⟩⟩ := h
  · have hs := hc.fits
    simp only [Session.Fits, hst] at hs
    exact hs.2.2
  · have hs := hc.fits
    simp only [Session.Fits, hc.activity_fits.1] at hs
    exact hs.2.2

/-! ## What a release learns -/

/-- Where no call breaks down, a release that comes to its end returns. -/
theorem return_of_released {o : Outcome Unit} (hi : Intact l) (ho : e.isOrderly = true)
    (hm : Move now l e step) (hr : step.result = some (.released o)) :
    (OwnerResult.released o).isReturn = true := by
  cases hm with
  | releaseIdle _ | releaseLost _ _ =>
      obtain rfl := OwnerResult.released.inj (Option.some.inj hr)
      rfl
  | released _ hreply hres =>
      obtain rfl := OwnerResult.released.inj (Option.some.inj hr)
      exact (Session.concludeRelease_result hreply hres).1
  | releaseBreaks ha hr' hb =>
      exact absurd hb (by simp [hi.not_broken (becomes_of_awaitsEnd ha hr')])
  | unlockCrashed _ => simp [Event.isOrderly] at ho
  | _ => exact absurd hr (by simp [Step.stay, Step.silent])

/-- A release of a lock that is owed returns when its call is answered. -/
theorem unlocking_of_return (h : Consistent autoRefresh g l) (hm : Move now l e step)
    (hr : step.result.any (·.isReturn) = true)
    (howes : ∀ s, l = .owned s .resting → s.owesUnlock = true) : l.isUnlocking = true := by
  cases hm with
  | releaseIdle hidle => exact absurd ((howes _ rfl).symm.trans hidle) (by simp)
  | released _ _ _ => rfl
  | releaseLost ha hx => exact absurd hx (h.handle_ne_none ha)
  | _ => exact absurd hr (by simp [Step.stay, Step.silent, OwnerResult.isReturn])

/-- A lock that was granted is owed until it is given back. -/
theorem Rests.owes {x : LockHandle} {grant : Grant} (h : Rests x l)
    (hc : Consistent autoRefresh (some grant) l) :
    ∃ s, l = .owned s .resting ∧ s.owesUnlock = true ∧ s.handle = some x := by
  obtain ⟨s, rfl, hst, hx⟩ := h
  refine ⟨s, rfl, ?_, hx⟩
  rw [hc.owesUnlock_eq]
  rcases hst with hst | hst
  · rw [hst]
    rfl
  · have hs := hc.fits
    simp [Session.Fits, hst] at hs

theorem Yields.owes (h : Yields l) (hc : Consistent autoRefresh g l) :
    ∃ s activity x, l = .owned s activity ∧ s.owesUnlock = true ∧ s.handle = some x := by
  obtain ⟨s, activity, rfl, hact⟩ := h
  have hst : s.state = .releasing := by
    rcases hact with rfl | ⟨renewal, run, rfl⟩
    · exact hc.activity_fits
    · exact hc.activity_fits.1
  have howes : s.owesUnlock = true := by
    rw [hc.owesUnlock_eq, hst]
    rfl
  obtain ⟨x, hx, -⟩ := Session.handle_of_owesUnlock howes
  exact ⟨s, activity, x, rfl, howes, hx⟩

end DistLock.Lifecycle
