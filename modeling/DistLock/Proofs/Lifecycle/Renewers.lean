import DistLock.Proofs.Lifecycle.Invariant

/-!
# What becomes of a renewer

`Renewer.Becomes` lists what an event can make of the renewer of a
session, and `becomes_of_move` says that nothing else happens to it: it
goes on, its call is answered, its owner asks it to end and takes over how
it ended, or it is new.

* A renewer that was asked to end stays so (`cancelled_of_move`).
* As long as no renewal breaks down, no renewer does
  (`intact_of_move`, `intact_of_run`).
* What holds of a renewer that has not begun, and is kept by all that
  becomes of one, holds of the renewer wherever a run leads
  (`renewer_of_run`).
-/

namespace DistLock

/-- `Becomes now e l r`: the event `e` leaves the renewer `r`
to the life `l`. -/
inductive Renewer.Becomes (now : Nat) (e : Event) (l : Lifecycle) : Renewer → Prop
  | same {r} : l.renewer? = some r → Becomes now e l r
  | cancelled {r} : Becomes now e l r → Becomes now e l r.cancel
  | joined {r} : Becomes now e l r → Becomes now e l { r with joined := true }
  | woken {r} : l.renewer? = some r → Becomes now e l (r.wake now).next
  | answered {r} (reply) : l.renewer? = some r → e = .answer (.refreshed reply) →
      Becomes now e l (r.answer now reply).next
  | started {r} : Moment.grant? ⟨now, e, l⟩ ≠ none → r.hasCrashed = false → Becomes now e l r

namespace Lifecycle

open Renewer (Becomes)

variable {now : Nat} {autoRefresh : Bool} {g : Option Grant} {l : Lifecycle} {e : Event}
  {step : Step Lifecycle OwnerResult} {r r' : Renewer}

theorem becomes_of_cancel (h : l.renewer?.map (·.cancel) = some r) : Becomes now e l r := by
  obtain ⟨r₀, hr₀, rfl⟩ := Option.map_eq_some_iff.1 h
  exact .cancelled (.same hr₀)

theorem becomes_of_awaitsEnd {s t : Session} {activity : Activity} {e' : Event}
    (ha : AwaitsEnd s activity e' t) (h : t.renewer = some r) :
    Becomes now e (.owned s activity) r := by
  cases ha with
  | first _ => exact becomes_of_cancel (l := .owned s .resting) h
  | again => exact .same h

theorem becomes_of_backgroundAwaits {b b' : BackgroundRelease} (ha : b.AwaitsEnd b')
    (h : b'.renewer = some r) : Becomes now e (.background b) r := by
  cases ha with
  | first _ => exact becomes_of_cancel (l := .background b) h
  | again _ => exact .same h

theorem becomes_of_move (hm : Move now l e step) (h : step.next.renewer? = some r') :
    Becomes now e l r' := by
  cases hm with
  | renewerWakes hr =>
      simp only [Step.silent, Step.lift, setRenewer_renewer?, Option.some.injEq] at h
      exact h ▸ .woken hr
  | renewerAnswered reply hr =>
      simp only [Step.silent, Step.lift, setRenewer_renewer?, Option.some.injEq] at h
      exact h ▸ .answered reply hr rfl
  | @granted s a run reply key log hw hkey =>
      simp only [Lifecycle.renewer?, Session.grant_renewer] at h
      split at h
      · rw [Option.some.injEq] at h
        exact .started (by simp [Moment.grant?, hw, hkey]) (h ▸ rfl)
      · exact .same h
  | releaseWaits ha _ _ => exact becomes_of_awaitsEnd ha h
  | releaseBreaks ha hr _ =>
      obtain rfl := Option.some.inj h
      exact .joined (becomes_of_awaitsEnd ha hr)
  | releaseUnlocks _ _ _ | releaseLost _ _ | backgroundBreaks _ _ _ | backgroundUnlocks _ _ =>
      exact absurd h (by simp [Lifecycle.renewer?, Session.forgetRenewer, Step.stay,
        BackgroundRelease.beginUnlock])
  | @letGo s activity background log _ => exact becomes_of_cancel (l := .owned s activity) h
  | backgroundWaits ha _ _ => exact becomes_of_backgroundAwaits ha h
  | _ => exact .same h

/-! ## Being asked to end -/

theorem cancelled_of_move (hm : Move now l e step) (hg : Moment.grant? ⟨now, e, l⟩ = none)
    (hc : RenewalCancelled l.renewer?) : RenewalCancelled step.next.renewer? := by
  intro r' h
  have hr' := becomes_of_move hm h
  -- what a renewer becomes may take several changes, so the induction is on these
  clear h
  induction hr' with
  | same hr => exact hc _ hr
  | cancelled _ _ => rfl
  | joined _ ih => exact ih
  | woken hr => exact Renewer.wake_flags.1.trans (hc _ hr)
  | answered reply hr _ => exact Renewer.answer_flags.1.trans (hc _ hr)
  | started hgrant _ => exact absurd hg hgrant

/-! ## Breaking down -/

/-- The renewer, if there is one, did not break down. -/
def Intact (l : Lifecycle) : Prop := ∀ r, l.renewer? = some r → r.hasCrashed = false

theorem intact_new (policy : RetryPolicy) (autoRefresh : Bool) :
    Intact (new policy autoRefresh) := by
  simp [Intact, new, Lifecycle.renewer?]

theorem intact_of_becomes (hr' : Becomes now e l r')
    (he : ∀ text, e ≠ .answer (.refreshed (.crash text))) (hi : Intact l) :
    r'.hasCrashed = false := by
  rw [← Bool.not_eq_true]
  induction hr' with
  | same hr => simp [hi _ hr]
  | cancelled _ ih => exact ih
  | joined _ ih => exact ih
  | woken hr =>
      intro hcrash
      simpa [hi _ hr] using Renewer.wake_breaksDown hcrash
  | answered reply hr hreply =>
      intro hcrash
      rcases Renewer.answer_breaksDown hcrash with hold | ⟨text, rfl⟩
      · simp [hi _ hr] at hold
      · exact he text hreply
  | started _ hfresh => simp [hfresh]

theorem intact_of_move (hm : Move now l e step)
    (he : ∀ text, e ≠ .answer (.refreshed (.crash text))) (hi : Intact l) :
    Intact step.next :=
  fun _ h => intact_of_becomes (becomes_of_move hm h) he hi

/-- As long as no call of a renewal breaks down, no renewer does. -/
theorem intact_of_run {policy : RetryPolicy} {es : List (Nat × Event)}
    (hcalm : ∀ m ∈ (new policy autoRefresh).moments es, ∀ text,
      m.event ≠ .answer (.refreshed (.crash text))) :
    Intact ((new policy autoRefresh).after es) := by
  refine run_induction (l := new policy autoRefresh)
    (P := fun ms l => (∀ m ∈ ms, ∀ text, m.event ≠ .answer (.refreshed (.crash text))) → Intact l)
    (fun _ => intact_new policy autoRefresh) ?_ es hcalm
  intro es now e ih hcalm
  refine intact_of_move (step_move _ now e) ?_ ?_
  · exact hcalm _ (List.mem_append_right _ List.mem_cons_self)
  · exact ih fun m hm => hcalm m (List.mem_append_left _ hm)

/-- Who looks for the end of an intact renewer does not find it broken. -/
theorem Intact.not_broken (hi : Intact l) (hr : Becomes 0 .abandon l r) :
    r.isBroken = false := by
  cases hb : r.isBroken with
  | false => rfl
  | true =>
      have hcrash := Renewer.hasCrashed_of_isBroken hb
      simp [intact_of_becomes hr (by simp) hi] at hcrash

/-! ## What holds of every renewer -/

/-- A renewer begins with the grant of a lock that has a lease,
and for that lock. -/
theorem fresh_of_grant {grant : Grant} (h : Consistent autoRefresh g l) (hm : Move now l e step)
    (hg : Moment.grant? ⟨now, e, l⟩ = some grant) (hr : step.next.renewer? = some r) :
    ∃ policy, r = { policy, name := grant.name, key := grant.key, lease := grant.lease } ∧
      0 < grant.lease := by
  obtain ⟨s, a, run, reply, key, rfl, rfl, hw, hkey, rfl⟩ := grant?_eq_some hg
  cases hm with
  | stay hig => exact absurd (hw.symm.trans hig) (by simp)
  | acquirePaused _ hp =>
      obtain ⟨-, -, status, rfl⟩ := Run.answer_pausing hp
      cases hkey
  | granted _ hkey' =>
      obtain rfl : key = _ := Option.some.inj (hkey.symm.trans hkey')
      have hs := h.fits
      simp only [Session.Fits, h.activity_fits.1] at hs
      simp only [Lifecycle.renewer?, Session.grant_renewer] at hr
      split at hr
      · rename_i hlease
        obtain rfl := Option.some.inj hr
        exact ⟨s.policy, rfl, hlease.1⟩
      · exact absurd (hr.symm.trans hs.2.1) (by simp)
  | notGranted _ hnone _ _ => exact absurd (hkey.symm.trans hnone) (by simp)
  | acquireCrashed _ => cases hkey
  | releaseWaits ha _ _ | releaseBreaks ha _ _ | releaseUnlocks ha _ _ | releaseLost ha _ =>
      cases ha

/-- What holds of a renewer that has not begun, and is kept whatever
becomes of one. -/
theorem renewer_of_run {P : Renewer → Prop}
    (fresh : ∀ policy name key lease, 0 < lease → P { policy, name, key, lease })
    (cancel : ∀ r, P r → P r.cancel)
    (join : ∀ r, P r → P { r with joined := true })
    (wake : ∀ now r, P r → P (r.wake now).next)
    (answer : ∀ now reply r, P r → P (r.answer now reply).next)
    (policy : RetryPolicy) (autoRefresh : Bool) (es : List (Nat × Event))
    (h : ((new policy autoRefresh).after es).renewer? = some r) : P r := by
  refine run_induction (l := new policy autoRefresh)
    (P := fun _ l => ∀ r, l.renewer? = some r → P r) ?_ ?_ es r h
  · intro r hr
    cases hr
  · intro es now e ih r' hr'
    have hm := step_move ((new policy autoRefresh).after es) now e
    cases hgrant : Moment.grant? ⟨now, e, (new policy autoRefresh).after es⟩ with
    | some grant =>
        obtain ⟨policy', rfl, hlease⟩ :=
          fresh_of_grant (consistent_run policy autoRefresh es) hm hgrant hr'
        exact fresh policy' grant.name grant.key grant.lease hlease
    | none =>
        have hbecomes := becomes_of_move hm hr'
        clear hr'
        induction hbecomes with
        | same hr => exact ih _ hr
        | cancelled _ hold => exact cancel _ hold
        | joined _ hold => exact join _ hold
        | woken hr => exact wake now _ (ih _ hr)
        | answered reply hr _ => exact answer now reply _ (ih _ hr)
        | started hnew _ => exact absurd hgrant hnew

end Lifecycle

end DistLock
