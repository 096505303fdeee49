import DistLock.Proofs.Lifecycle.Calls
import DistLock.Proofs.Lifecycle.Renewers
import DistLock.Proofs.Lifecycle.Transitions

/-!
# Renewal ends before a lock is given back

* A life whose renewer was asked to end, and which gets no other, is
  `Quelled`: it stays so, and sends no renewal any more (`Quelled.run`). A
  release and the background release of a dropped session quell it the first
  time they go on; a drop that leaves no such release does so at once
  (`quelled_of_quells`).
* A renewer is forgotten only when it is over (`over_of_forgotten`), so it
  is over, and no call of it under way, whenever a lock is given back.
-/

namespace DistLock

/-- The moments after which no renewal is sent; `granted` tells whether the
lock was granted. -/
inductive Moment.Quells (granted : Bool) : Moment → Prop
  /-- The owner begins to release a lock that was granted. -/
  | release {now s} : granted = true → Quells granted ⟨now, .release, .owned s .resting⟩
  /-- The background release of a dropped session goes on. -/
  | background {now b} : Quells granted ⟨now, .wake .holder, .background b⟩
  /-- The session is dropped, and nothing releases it in the background. -/
  | letGo {now l background r} : (l.step now (.drop background)).next = .gone r →
      Quells granted ⟨now, .drop background, l⟩

/-- What was last seen of the renewer. -/
def lastRenewer (ms : List Moment) : Option Renewer :=
  (ms.filterMap (·.before.renewer?)).getLast?

theorem lastRenewer_concat (ms : List Moment) (m : Moment) :
    lastRenewer (ms ++ [m]) = m.before.renewer?.or (lastRenewer ms) := by
  unfold lastRenewer
  rw [List.filterMap_append, List.getLast?_append]
  cases h : m.before.renewer? <;> simp [h]

namespace Lifecycle

variable {now : Nat} {autoRefresh : Bool} {g : Option Grant} {l : Lifecycle} {e : Event}
  {step : Step Lifecycle OwnerResult} {r : Renewer}

/-! ## No renewal after the end of the renewer was asked for -/

/-- The renewer was asked to end, and there will be no other. -/
structure Quelled (autoRefresh : Bool) (l : Lifecycle) : Prop where
  consistent : ∃ g, Consistent autoRefresh g l
  cancelled : RenewalCancelled l.renewer?
  used : ∀ s activity, l = .owned s activity → s.state ≠ .idle ∧ s.state ≠ .acquiring

theorem Quelled.next (h : Quelled autoRefresh l) (now : Nat) (e : Event) :
    Quelled autoRefresh (l.step now e).next := by
  obtain ⟨⟨g, hc⟩, hcancelled, hused⟩ := h
  have hm := step_move l now e
  have hgrant : Moment.grant? ⟨now, e, l⟩ = none :=
    hc.grant?_eq_none fun s activity hl => (hused s activity hl).2
  refine ⟨⟨_, consistent_move hc hm⟩, cancelled_of_move hm hgrant hcancelled, ?_⟩
  intro s' activity' hn
  obtain ⟨s, activity, hl, hsame | ⟨hlead, -⟩⟩ := state_of_move hc hm hn
  · exact hsame ▸ hused s activity hl
  · exact ⟨hlead.ne_idle, hlead.ne_acquiring (hused s activity hl).1⟩

/-- A renewal is sent only by a renewer that nobody asked to end. -/
theorem Quelled.sends {m : Moment} (h : Quelled autoRefresh m.before) :
    m.sends .refreshLock = false := by
  rw [← Bool.not_eq_true, Moment.sends_eq_true]
  rintro ⟨q, hq, hop⟩
  obtain ⟨g, hc⟩ := h.consistent
  obtain ⟨r, hr, hc⟩ := (sends_of_move hc (step_move _ _ _) hq).refreshLock hop
  simp [h.cancelled r hr] at hc

theorem Quelled.run (h : Quelled autoRefresh l) (es : List (Nat × Event)) :
    ∀ m ∈ l.moments es, m.sends .refreshLock = false :=
  fun m hm => (moments_of_step (fun _ now e hl => hl.next now e) h m hm).sends

/-- Once a lock that was granted is not held any more, its
renewer is to end. -/
theorem quelled_of_state {s : Session} {activity : Activity} {grant : Grant}
    (h : Consistent autoRefresh (some grant) (.owned s activity)) (hst : s.state ≠ .held) :
    Quelled autoRefresh (.owned s activity) := by
  have hs := h.fits
  obtain ⟨-, -, -, -, hrel⟩ := id h
  refine ⟨⟨_, h⟩, ?_, ?_⟩
  · intro r hr
    cases hstate : s.state <;> simp only [Session.Fits, hstate] at hs
    case held => exact absurd hstate hst
    case releasing => exact hrel hstate r hr
    case released =>
      obtain ⟨-, -, -, -, -, hnone⟩ := hs
      exact absurd (hr.symm.trans hnone) (by simp)
    all_goals simp at hs
  · rintro s' activity' hl
    obtain ⟨rfl, -⟩ := Lifecycle.owned.inj hl
    refine ⟨fun hstate => ?_, fun hstate => ?_⟩ <;> simp [Session.Fits, hstate] at hs

theorem quelled_of_stage {b : BackgroundRelease} (h : Consistent autoRefresh g (.background b))
    (hst : b.stage ≠ .ready) : Quelled autoRefresh (.background b) := by
  obtain ⟨-, grant, -, -, hb⟩ := id h
  refine ⟨⟨_, h⟩, ?_, fun s activity hl => by simp at hl⟩
  intro r hr
  replace hr : b.renewer = some r := hr
  cases hstage : b.stage <;> simp only [hstage, hr] at hb
  case ready => exact absurd hstage hst
  case stopping => exact hb r rfl
  all_goals simp at hb

theorem quelled_of_release {s : Session} {grant : Grant}
    (h : Consistent autoRefresh (some grant) (.owned s .resting))
    (hm : Move now (.owned s .resting) .release step) : Quelled autoRefresh step.next := by
  have hnext := consistent_keep h hm h.grant?_of_granted
  cases hm with
  | stay hig => exact absurd rfl hig
  | releaseIdle howes =>
      refine quelled_of_state hnext fun hst => ?_
      rw [h.owesUnlock_eq, hst] at howes
      simp at howes
  | releaseWaits ha _ _ | releaseBreaks ha _ _ | releaseUnlocks ha _ _ =>
      refine quelled_of_state hnext fun hst => ?_
      cases ha with
      | first _ => simp [Session.beginRelease, Session.forgetRenewer] at hst
  | releaseLost ha hx => exact absurd hx (h.handle_ne_none ha)

theorem quelled_of_wake {b : BackgroundRelease} (h : Consistent autoRefresh g (.background b))
    (hm : Move now (.background b) (.wake .holder) step) : Quelled autoRefresh step.next := by
  have hnext := consistent_move h hm
  cases hm with
  | stay hig =>
      refine quelled_of_stage hnext fun hst => ?_
      simp only [Ignores, hst] at hig
  | backgroundWaits _ _ _ | backgroundBreaks _ _ _ | backgroundUnlocks _ _
  | backgroundRetried _ _ => exact quelled_of_stage hnext (by simp [BackgroundRelease.beginUnlock])

theorem quelled_of_quells {granted : Bool} {m : Moment} (h : Consistent autoRefresh g m.before)
    (hg : granted = g.isSome) (hq : m.Quells granted) : Quelled autoRefresh m.after := by
  cases hq with
  | @release now s hgranted =>
      obtain ⟨grant, rfl⟩ := Option.isSome_iff_exists.1 (hg.symm.trans hgranted)
      exact quelled_of_release h (step_move _ now .release)
  | @background now b => exact quelled_of_wake h (step_move _ now (.wake .holder))
  | @letGo now l background r hgone =>
      have hnext := consistent_move h (step_move l now (.drop background))
      unfold Moment.after Moment.step
      rw [hgone] at hnext ⊢
      exact ⟨⟨_, hnext⟩, hnext.2, fun s activity hl => by simp at hl⟩

/-! ## The end of the renewer before the lock is given back -/

/-- A renewer whose end may be taken over, or was, is over. -/
theorem Consistent.over (h : Consistent autoRefresh g l) (hover : RenewalOver l.renewer?)
    (hr : l.renewer? = some r) : r.isAlive = false := by
  cases hj : r.joined with
  | true => exact h.1 r hr hj
  | false => simpa [Renewer.isRunning, hj] using (hover r hr).1

/-- A renewer is forgotten only when it is over. -/
theorem over_of_forgotten (h : Consistent autoRefresh g l) (hm : Move now l e step)
    (hr : l.renewer? = some r) (hn : step.next.renewer? = none) : r.isAlive = false := by
  cases hm with
  | renewerWakes _ | renewerAnswered _ _ =>
      exact absurd hn (by simp [Step.silent, Step.lift])
  | granted _ _ =>
      -- a lock without a lease gets no renewer, and leaves the one there is
      simp only [Lifecycle.renewer?, Session.grant_renewer] at hn
      split at hn
      · simp at hn
      · exact absurd (hr.symm.trans hn) (by simp)
  | releaseUnlocks ha hover _ => exact h.over (renewalOver_of_awaitsEnd ha hover) hr
  | backgroundUnlocks ha hover => exact h.over (renewalOver_of_backgroundAwaits ha hover) hr
  | backgroundBreaks ha hr' hb =>
      have hover := Renewer.isAlive_false_of_isBroken hb
      cases ha with
      | first _ =>
          obtain ⟨r₀, hr₀, rfl⟩ := Option.map_eq_some_iff.1 hr'
          obtain rfl := Option.some.inj (hr.symm.trans hr₀)
          exact hover
      | again _ =>
          obtain rfl := Option.some.inj (hr.symm.trans hr')
          exact hover
  | releaseWaits _ hr' _ | backgroundWaits _ hr' _ =>
      exact absurd (hr'.symm.trans hn) (by simp)
  | releaseBreaks _ _ _ => exact absurd hn (by simp [Lifecycle.renewer?])
  | releaseLost ha hx => exact absurd hx (h.handle_ne_none ha)
  | letGo _ => exact absurd (hr.symm.trans (Option.map_eq_none_iff.1 hn)) (by simp)
  | _ => exact absurd (hr.symm.trans hn) (by simp)

/-- Where there is no renewer, the last that was seen is over. -/
theorem over_of_run (policy : RetryPolicy) (autoRefresh : Bool) (es : List (Nat × Event))
    (hn : ((new policy autoRefresh).after es).renewer? = none)
    (hr : lastRenewer ((new policy autoRefresh).moments es) = some r) : r.isAlive = false := by
  -- an event that leaves no renewer met none, or forgot the one it met
  refine run_induction (l := new policy autoRefresh) (P := fun ms l => l.renewer? = none →
    ∀ r, lastRenewer ms = some r → r.isAlive = false) ?_ ?_ es hn r hr
  · intro _ r hr
    simp [lastRenewer] at hr
  · intro es now e ih hn r hr
    have h := consistent_run policy autoRefresh es
    rw [lastRenewer_concat] at hr
    cases hb : ((new policy autoRefresh).after es).renewer? with
    | none =>
        rw [hb, Option.none_or] at hr
        exact ih hb r hr
    | some r' =>
        rw [hb, Option.some_or, Option.some.injEq] at hr
        exact hr ▸ over_of_forgotten h (step_move _ now e) hb hn

/-! ## The whole -/

/-- From the moment on at which a release begins, or the background release
of a dropped session first goes on, no renewal is sent; and whenever a
request to give the lock back is sent, no renewal is under way, and the
renewer is over. -/
theorem renewal_ends_before_unlock (policy : RetryPolicy) (autoRefresh : Bool)
    (es : List (Nat × Event)) (ms₁ ms₂ : List Moment) (m : Moment)
    (hsplit : (new policy autoRefresh).moments es = ms₁ ++ m :: ms₂) :
    (m.Quells (granted ms₁).isSome → ∀ x ∈ ms₂, x.sends .refreshLock = false) ∧
    (m.sends .unlock = true →
      m.before.isWaiting .renewer = false ∧ m.after.isWaiting .renewer = false ∧
        ∀ r, lastRenewer (ms₁ ++ [m]) = some r → r.isAlive = false) := by
  have h := consistent_before hsplit
  obtain ⟨es₁, es₂, -, hms₁, hb, rfl⟩ := moments_split hsplit
  refine ⟨fun hq => (quelled_of_quells h rfl hq).run es₂, fun hs => ?_⟩
  obtain ⟨u, hu⟩ := Moment.exists_unlock_of_sends hs
  obtain ⟨-, -, -, hover, hafter⟩ := (sends_of_split hsplit hu).unlock
  have hbefore : ∀ r, m.before.renewer? = some r → r.isAlive = false := fun r => h.over hover
  refine ⟨?_, by simp [Lifecycle.isWaiting, hafter], ?_⟩
  · -- a renewer that is over waits for no answer
    cases hr : m.before.renewer? with
    | none => simp [Lifecycle.isWaiting, hr]
    | some r => simp [Lifecycle.isWaiting, hr, Renewer.isWaiting_false_of_over (hbefore r hr)]
  · -- the last renewer is there to be asked, or it was over when it was forgotten
    intro r hr
    rw [lastRenewer_concat] at hr
    cases hr' : m.before.renewer? with
    | none =>
        rw [hr', Option.none_or] at hr
        rw [hb] at hr'
        exact over_of_run policy autoRefresh es₁ hr' (hms₁ ▸ hr)
    | some r' =>
        rw [hr', Option.some_or, Option.some.injEq] at hr
        exact hr ▸ hbefore r' hr'

/-- A run whose renewer sleeps until its first renewal. -/
def sleepingRun : List (Nat × Event) := grantedRun ++ [(0, .wake .renewer)]

/-- A run in which the lock is given back while the renewer sleeps. -/
def releasedRun : List (Nat × Event) :=
  sleepingRun ++ [(10, .release), (10, .wake .renewer), (10, .wake .holder)]

/-- The renewer ends between the release and the call that
gives the lock back. -/
theorem renewal_ends_before_release :
    ∃ m ms₂ m', (new {} true).moments releasedRun =
        (new {} true).moments sleepingRun ++ m :: (ms₂ ++ [m']) ∧
      m.event = .release ∧ (∀ x ∈ ms₂ ++ [m'], x.sends .refreshLock = false) ∧
      m'.sends .unlock = true ∧ m'.before.isWaiting .renewer = false := by
  refine ⟨_, [_], _, rfl, rfl, ?_, by decide, ?_⟩
  · have hgranted : (granted ((new {} true).moments sleepingRun)).isSome = true := by decide
    exact (renewal_ends_before_unlock {} true releasedRun ((new {} true).moments sleepingRun) _ _
      rfl).1 (.release hgranted)
  · have hbefore := renewal_ends_before_unlock {} true releasedRun
      ((new {} true).moments (sleepingRun ++ [(10, .release), (10, .wake .renewer)])) [] _ rfl
    exact (hbefore.2 (by decide)).1

/-- Between the drop of a session and its background release, a renewal that
is due is sent. -/
theorem renewal_after_drop :
    ∃ ms₁ m ms₂, (new {} true).moments (sleepingRun ++ [(10000, .drop true),
        (10000, .wake .renewer)]) = ms₁ ++ m :: ms₂ ∧
      m.event = .drop true ∧ ∃ x ∈ ms₂, x.sends .refreshLock = true := by
  exact ⟨(new {} true).moments sleepingRun, _, [_], rfl, rfl, _, List.mem_singleton_self _,
    by decide⟩

end Lifecycle

end DistLock
