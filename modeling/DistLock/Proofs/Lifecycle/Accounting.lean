import DistLock.Proofs.Lifecycle.Calls
import DistLock.Proofs.Lifecycle.Renewers
import DistLock.Proofs.Lifecycle.Results

/-!
# Unlock accounting

The owner and the release of a dropped session share the duty to give back a
lock. `unlocksDue` is that duty: one from the moment the lock is granted, none
once the call is under way, and one again when the owner gives up the release
whose call had begun. Every move keeps the account (`account_of_move`): what
is begun was due, and what is due was granted or given up.

The account holds as long as no call breaks down and the session is dropped
only where its release can run in the background (`Event.isOrderly`).
-/

namespace DistLock

/-- No call breaks down, and no lock is left to expire. -/
def Event.isOrderly : Event → Bool
  | .answer (.acquired (.crash _)) | .answer (.refreshed (.crash _))
  | .answer (.unlocked (.crash _)) => false
  | .drop background => background
  | _ => true

/-- The owner gives up a release whose call has begun. -/
def Moment.abandonsUnlock (m : Moment) : Bool :=
  match m.before, m.event with
  | .owned _ (.unlocking _ _), .abandon | .owned _ (.unlocking _ _), .drop _ => true
  | _, _ => false

/-- The invocation that gives the lock back comes to its end. -/
def Moment.endsUnlock (m : Moment) : Bool := m.before.isUnlocking && !m.after.isUnlocking

theorem Acquisition.request_ne_unlock (a : Acquisition) :
    (a.request.operation == .unlock) = false := by
  unfold Acquisition.request
  split <;> rfl

/-- Nothing is owed unless the lock is held, or a release has begun. -/
theorem Session.owesUnlock_eq_false {s : Session} (hheld : s.state ≠ .held)
    (hrel : s.state ≠ .releasing) : s.owesUnlock = false := by
  simp [Session.owesUnlock, hheld, hrel]

namespace Lifecycle

/-- How many invocations that give the lock back are still to begin. -/
def unlocksDue : Lifecycle → Nat
  | .owned _ (.unlocking _ _) => 0
  | .owned s _ => s.owesUnlock.toNat
  | .background b =>
    match b.stage with
    | .ready | .stopping => 1
    | .unlocking _ | .done => 0
  | .gone _ => 0

variable {now : Nat} {autoRefresh : Bool} {g : Option Grant} {l : Lifecycle} {e : Event}
  {step : Step Lifecycle OwnerResult} {s t : Session} {activity : Activity}

/-! ## What is due -/

@[simp] theorem unlocksDue_setRenewer (r : Renewer) :
    (l.setRenewer r).unlocksDue = l.unlocksDue := by
  cases l with
  | owned s activity => cases activity <;> rfl
  | background b => rfl
  | gone x => rfl

/-- An owner that looks for the end of its renewer has not begun the call. -/
theorem unlocksDue_of_awaitsEnd (h : Consistent autoRefresh g (.owned s activity))
    (ha : AwaitsEnd s activity e t) :
    (Lifecycle.owned s activity).unlocksDue = 1 ∧ t.owesUnlock = true := by
  have ht := (h.awaitsEnd ha).owesUnlock_eq
  have hst : t.state = .releasing := (h.awaitsEnd ha).activity_fits
  rw [hst] at ht
  cases ha with
  | first ho => exact ⟨by simp [unlocksDue, ho], ht⟩
  | again => exact ⟨by simp [unlocksDue, ht], ht⟩

theorem unlocksDue_of_backgroundAwaits {b b' : BackgroundRelease} (ha : b.AwaitsEnd b') :
    (Lifecycle.background b).unlocksDue = 1 := by
  cases ha with
  | first hst => simp [unlocksDue, hst]
  | again hst => simp [unlocksDue, hst]

theorem abandonsUnlock_of_ignores (h : Ignores now l e) :
    Moment.abandonsUnlock ⟨now, e, l⟩ = false := by
  unfold Moment.abandonsUnlock
  split
  · rename_i hl he
    obtain rfl := hl
    obtain rfl : e = .abandon := he
    exact h.elim
  · rename_i hl he
    obtain rfl := hl
    obtain rfl : e = .drop _ := he
    exact h.elim
  · rfl

/-! ## Every move keeps the account -/

theorem account_of_move (h : Consistent autoRefresh g l) (hi : Intact l)
    (ho : e.isOrderly = true) (hm : Move now l e step) :
    (step.sent.any (·.operation == .unlock) && !l.isUnlocking).toNat + step.next.unlocksDue =
      l.unlocksDue + (Moment.abandonsUnlock ⟨now, e, l⟩).toNat +
        (Moment.grant? ⟨now, e, l⟩).isSome.toNat := by
  cases hm with
  | stay hig => simp [Step.stay, abandonsUnlock_of_ignores hig, grant?_of_ignores hig]
  | @renewerWakes l r hr =>
      -- what a renewer sends gives nothing back
      have hq : (r.wake now).sent.any (·.operation == .unlock) = false := by
        cases hsent : (r.wake now).sent with
        | none => rfl
        | some q => simp [(Renewer.wake_sent hsent).2]
      rw [grant?_of_event (by simp)]
      simp [Step.silent, Step.lift, hq, Moment.abandonsUnlock]
  | renewerAnswered reply hr =>
      rw [grant?_of_event (by simp)]
      simp [Step.silent, Step.lift, Renewer.answer_sent, Moment.abandonsUnlock]
  | acquireRefused _ | releaseIdle _ =>
      rw [grant?_of_event (by simp)]
      simp [Moment.abandonsUnlock]
  | @acquireBegun s a hb =>
      obtain ⟨-, hst, -⟩ := Session.begin_eq_ok hb
      have hbefore : s.owesUnlock = false :=
        Session.owesUnlock_eq_false (by simp [hst]) (by simp [hst])
      have hafter : Session.owesUnlock { s with state := .acquiring } = false :=
        Session.owesUnlock_eq_false (by simp) (by simp)
      rw [grant?_of_event (by simp)]
      simp [Moment.abandonsUnlock, unlocksDue, a.request_ne_unlock, hbefore, hafter]
  | @acquireRetried s a run run' hrun =>
      obtain ⟨-, hsame, -⟩ := Run.resume?_eq_some hrun
      have hreq : run'.request = a.request := hsame.trans h.activity_fits.2.2
      rw [grant?_of_event (by simp)]
      simp [Moment.abandonsUnlock, unlocksDue, a.request_ne_unlock, hreq]
  | acquirePaused _ hp =>
      obtain ⟨-, -, status, rfl⟩ := Run.answer_pausing hp
      rw [grant?_of_key (by simp [Reply.key?, Reply.outcome])]
      simp [Moment.abandonsUnlock, unlocksDue]
  | @granted s a run reply key log hw hkey =>
      -- from here on one invocation is due
      have hst : s.state = .acquiring := h.activity_fits.1
      have hbefore : s.owesUnlock = false :=
        Session.owesUnlock_eq_false (by simp [hst]) (by simp [hst])
      have hafter : (s.grant a key now).1.owesUnlock = true := by
        simp [Session.owesUnlock, Session.isLocked, LockHandle.held]
      simp [Moment.grant?, hw, hkey, Moment.abandonsUnlock, unlocksDue, hbefore, hafter]
  | @notGranted s a run reply log outcome _ hkey _ _ =>
      have hst : s.state = .acquiring := h.activity_fits.1
      have hbefore : s.owesUnlock = false :=
        Session.owesUnlock_eq_false (by simp [hst]) (by simp [hst])
      have hafter : (s.refuse a.name).owesUnlock = false :=
        Session.owesUnlock_eq_false (by simp [Session.refuse]) (by simp [Session.refuse])
      rw [grant?_of_key hkey]
      simp [Moment.abandonsUnlock, unlocksDue, hbefore, hafter]
  | acquireCrashed _ | unlockCrashed _ => simp [Event.isOrderly] at ho
  | @releaseWaits s activity e t r ha _ _ =>
      obtain ⟨hdue, howes⟩ := unlocksDue_of_awaitsEnd h ha
      rw [hdue, grant?_of_event (by cases ha <;> simp)]
      cases ha <;> simp [Step.stay, howes, Moment.abandonsUnlock, unlocksDue]
  | releaseBreaks ha hr hb =>
      exact absurd hb (by simp [hi.not_broken (becomes_of_awaitsEnd ha hr)])
  | @releaseUnlocks s activity e t x renewal log ha _ _ =>
      -- the invocation that was due begins
      obtain ⟨hdue, -⟩ := unlocksDue_of_awaitsEnd h ha
      rw [hdue, grant?_of_event (by cases ha <;> simp)]
      cases ha <;> simp [Request.operation, isUnlocking, Moment.abandonsUnlock, unlocksDue]
  | releaseLost ha hx => exact absurd hx (h.handle_ne_none ha)
  | unlockRetried _ | unlockPaused _ _ =>
      rw [grant?_of_event (by simp)]
      simp [isUnlocking, Moment.abandonsUnlock, unlocksDue]
  | @released s renewal run reply log outcome _ _ _ =>
      have hafter : s.markReleased.owesUnlock = false :=
        Session.owesUnlock_eq_false (by simp [Session.markReleased])
          (by simp [Session.markReleased])
      rw [grant?_of_event (by simp)]
      simp [isUnlocking, Moment.abandonsUnlock, unlocksDue, hafter]
  | @abandoned s activity =>
      rw [grant?_of_event (by simp)]
      cases activity with
      | unlocking renewal run =>
          -- the handle is still locked, so the lock is to be given back once more
          have howes : s.owesUnlock = true := by
            rw [h.owesUnlock_eq, h.activity_fits.1]
            rfl
          simp [Step.stay, Moment.abandonsUnlock, unlocksDue, howes]
      | _ => simp [Step.stay, Moment.abandonsUnlock, unlocksDue]
  | @handedOver s activity x log howes _ =>
      rw [grant?_of_event (by simp)]
      cases activity <;>
        simp [Session.handOver, Moment.abandonsUnlock, unlocksDue, howes]
  | @letGo s activity background log howes =>
      replace howes : s.owesUnlock = false := howes ho
      rw [grant?_of_event (by simp)]
      cases activity with
      | unlocking renewal run =>
          -- a session whose call is under way owes the lock, and is not let go
          rw [h.owesUnlock_eq, h.activity_fits.1] at howes
          exact absurd howes (by decide)
      | _ => simp [Moment.abandonsUnlock, unlocksDue, howes]
  | @backgroundWaits b t r ha _ _ =>
      rw [grant?_of_event (by simp), unlocksDue_of_backgroundAwaits ha]
      simp [Step.stay, Moment.abandonsUnlock, unlocksDue]
  | backgroundBreaks ha hr hb =>
      exact absurd hb (by simp [hi.not_broken (becomes_of_backgroundAwaits ha hr)])
  | @backgroundUnlocks b t log ha _ =>
      -- whether it looks for the first time or again, no call is under way
      have hfirst : (Lifecycle.background b).isUnlocking = false := by
        cases ha <;> simp [isUnlocking, *]
      rw [grant?_of_event (by simp), unlocksDue_of_backgroundAwaits ha]
      simp [Request.operation, hfirst, Moment.abandonsUnlock, unlocksDue,
        BackgroundRelease.beginUnlock]
  | backgroundRetried hst _ | backgroundPaused hst _ _ | backgroundDone hst _ =>
      rw [grant?_of_event (by simp)]
      simp [isUnlocking, hst, Moment.abandonsUnlock, unlocksDue]

/-! ## The account of a run -/

/-- The two never overlap: who was granted its lock is not granted it again. -/
theorem Consistent.isSome_or (h : Consistent autoRefresh g l) :
    (g.or (Moment.grant? ⟨now, e, l⟩)).isSome.toNat =
      g.isSome.toNat + (Moment.grant? ⟨now, e, l⟩).isSome.toNat := by
  cases g with
  | none => simp
  | some grant =>
      rw [h.grant?_of_granted]
      simp

theorem not_crash_of_orderly (ho : e.isOrderly = true) (text : String) :
    e ≠ .answer (.refreshed (.crash text)) := by
  rintro rfl
  simp [Event.isOrderly] at ho

theorem orderly_moments {es : List (Nat × Event)} (ho : ∀ p ∈ es, p.2.isOrderly = true) :
    ∀ m ∈ l.moments es, m.event.isOrderly = true := by
  intro m hm
  obtain ⟨es₁, es₂, rfl, -⟩ := mem_moments hm
  exact ho (m.now, m.event) (by simp)

/-- What has begun or is still due was granted, or begun
before and given up. -/
theorem account_of_run (policy : RetryPolicy) (autoRefresh : Bool) (es : List (Nat × Event))
    (ho : ∀ p ∈ es, p.2.isOrderly = true) :
    Intact ((new policy autoRefresh).after es) ∧
      ((new policy autoRefresh).moments es).countP Moment.beginsUnlock +
        ((new policy autoRefresh).after es).unlocksDue =
      ((new policy autoRefresh).moments es).countP Moment.abandonsUnlock +
        (granted ((new policy autoRefresh).moments es)).isSome.toNat := by
  have hintact {es : List (Nat × Event)}
      (hms : ∀ m ∈ (new policy autoRefresh).moments es, m.event.isOrderly = true) :
      Intact ((new policy autoRefresh).after es) :=
    intact_of_run fun m hm => not_crash_of_orderly (hms m hm)
  refine ⟨hintact (orderly_moments ho), ?_⟩
  refine run_induction (P := fun ms l => (∀ m ∈ ms, m.event.isOrderly = true) →
    ms.countP Moment.beginsUnlock + l.unlocksDue =
      ms.countP Moment.abandonsUnlock + (granted ms).isSome.toNat) ?_ ?_ es (orderly_moments ho)
  · intro _
    rfl
  · intro es now e ih hms
    have hbefore : ∀ m ∈ (new policy autoRefresh).moments es, m.event.isOrderly = true :=
      fun m hm => hms m (List.mem_append_left _ hm)
    have hi := hintact hbefore
    have hsum := ih hbefore
    have ho : e.isOrderly = true :=
      hms ⟨now, e, _⟩ (List.mem_append_right _ (List.mem_singleton.2 rfl))
    have h := consistent_run policy autoRefresh es
    have hm := step_move ((new policy autoRefresh).after es) now e
    have hstep := account_of_move h hi ho hm
    rw [countP_concat, countP_concat, granted_concat, h.isSome_or]
    have hbegins : Moment.beginsUnlock ⟨now, e, (new policy autoRefresh).after es⟩ =
        ((((new policy autoRefresh).after es).step now e).sent.any (·.operation == .unlock) &&
          !((new policy autoRefresh).after es).isUnlocking) := rfl
    rw [hbegins]
    omega

/-! ## After a release that returned -/

/-- A lock that was granted, and for which nothing is left to do. -/
structure Settled (autoRefresh : Bool) (l : Lifecycle) : Prop where
  consistent : ∃ grant, Consistent autoRefresh (some grant) l
  intact : Intact l
  due : l.unlocksDue = 0
  unlocking : l.isUnlocking = false

/-- An invocation that is under way has begun. -/
theorem begins_of_isUnlocking (hm : Move now l e step) (h : step.next.isUnlocking = true) :
    l.isUnlocking = true ∨ step.sent.any (·.operation == .unlock) = true := by
  cases hm with
  | renewerWakes _ | renewerAnswered _ _ =>
      simp only [Step.silent, Step.lift, isUnlocking_setRenewer] at h
      exact .inl h
  | releaseUnlocks _ _ _ | backgroundUnlocks _ _ => exact .inr rfl
  | backgroundRetried hst _ | backgroundPaused hst _ _ => exact .inl (by simp [isUnlocking, hst])
  | unlockRetried _ | unlockPaused _ _ => exact .inl rfl
  | stay _ => exact .inl h
  | _ => exact absurd h (by simp [isUnlocking, Step.stay, Session.handOver])

theorem settled_of_return (h : Consistent autoRefresh g l) (hm : Move now l e step)
    (hr : step.result.any (·.isReturn) = true) :
    step.next.unlocksDue = 0 ∧ step.next.isUnlocking = false := by
  cases hm with
  | releaseIdle howes => exact ⟨by simp [unlocksDue, howes], rfl⟩
  | @released s renewal run reply log outcome _ _ _ =>
      exact ⟨by simp [unlocksDue, Session.owesUnlock, Session.markReleased], rfl⟩
  | releaseLost ha hx => exact absurd hx (h.handle_ne_none ha)
  | _ => exact absurd hr (by simp [Step.stay, Step.silent, OwnerResult.isReturn])

/-- Where nothing is left to do, nothing is begun, and nothing
will be left to do. -/
theorem Settled.next (h : Settled autoRefresh l) (now : Nat) (ho : e.isOrderly = true) :
    (l.step now e).sent.any (·.operation == .unlock) = false ∧
      Settled autoRefresh (l.step now e).next := by
  obtain ⟨⟨grant, hc⟩, hi, hdue, hun⟩ := h
  have hm := step_move l now e
  have habandons : Moment.abandonsUnlock ⟨now, e, l⟩ = false := by
    unfold Moment.abandonsUnlock
    split
    · rename_i hl _
      exact absurd hun (by simp [show l = _ from hl, isUnlocking])
    · rename_i hl _
      exact absurd hun (by simp [show l = _ from hl, isUnlocking])
    · rfl
  have hsum := account_of_move hc hi ho hm
  rw [habandons, hc.grant?_of_granted, hdue, hun] at hsum
  simp only [Bool.not_false, Bool.and_true, Option.isSome_none, Bool.toNat_false,
    Nat.add_eq_zero_iff, Bool.toNat_eq_zero, Nat.add_zero] at hsum
  refine ⟨hsum.1, ⟨grant, consistent_keep hc hm hc.grant?_of_granted⟩,
    intact_of_move hm (not_crash_of_orderly ho) hi, hsum.2, ?_⟩
  rw [← Bool.not_eq_true]
  intro hbegun
  rcases begins_of_isUnlocking hm hbegun with hold | hsent
  · simp [hun] at hold
  · simp [hsum.1] at hsent

theorem Settled.sends (h : Settled autoRefresh l) {es : List (Nat × Event)}
    (ho : ∀ m ∈ l.moments es, m.event.isOrderly = true) :
    ∀ m ∈ l.moments es, m.sends .unlock = false := by
  induction es generalizing l with
  | nil => simp
  | cons p es ih =>
      simp only [moments_cons, List.mem_cons, forall_eq_or_imp] at ho ⊢
      obtain ⟨hsent, hnext⟩ := h.next p.1 ho.1
      exact ⟨hsent, ih hnext ho.2⟩

/-- A release that returned is the last that gives the lock back. -/
theorem sends_of_return {policy : RetryPolicy} {es : List (Nat × Event)}
    (ho : ∀ p ∈ es, p.2.isOrderly = true) {ms₁ ms₂ : List Moment} {m : Moment}
    (hsplit : (new policy autoRefresh).moments es = ms₁ ++ m :: ms₂)
    (hgranted : (granted ms₁).isSome = true) (hreturn : m.returnsRelease = true) :
    ∀ x ∈ ms₂, x.sends .unlock = false := by
  have hc := consistent_before hsplit
  obtain ⟨es₁, es₂, rfl, rfl, hb, rfl⟩ := moments_split hsplit
  obtain ⟨grant, hg⟩ := Option.isSome_iff_exists.1 hgranted
  rw [hg] at hc
  have hm := step_move m.before m.now m.event
  have hi : Intact m.before := by
    rw [hb]
    exact (account_of_run policy autoRefresh es₁ fun p hp => ho p (by simp [hp])).1
  have hnext : Consistent autoRefresh (some grant) m.after :=
    consistent_keep hc hm hc.grant?_of_granted
  have hafter : Intact m.after :=
    intact_of_move hm (not_crash_of_orderly (ho (m.now, m.event) (by simp))) hi
  obtain ⟨hdue, hun⟩ := settled_of_return hc hm hreturn
  have hsettled : Settled autoRefresh m.after := ⟨⟨grant, hnext⟩, hafter, hdue, hun⟩
  exact hsettled.sends (orderly_moments fun p hp => ho p (by simp [hp]))

/-! ## One at a time -/

/-- Between an invocation that is under way and the time when there
is none, it ends. -/
theorem ends_between {es : List (Nat × Event)} {ms ms' : List Moment} {m : Moment}
    (h : l.moments es = ms ++ m :: ms') (hl : l.isUnlocking = true)
    (hm : m.before.isUnlocking = false) : ∃ x ∈ ms, x.endsUnlock = true := by
  -- on the events: either the first of them ends the invocation, or it is
  -- under way after it
  induction es generalizing l ms with
  | nil => simp at h
  | cons p es ih =>
      cases ms with
      | nil =>
          simp only [moments_cons, List.nil_append, List.cons.injEq] at h
          obtain ⟨rfl, -⟩ := h
          simp [hl] at hm
      | cons x ms =>
          simp only [moments_cons, List.cons_append, List.cons.injEq] at h
          obtain ⟨rfl, h⟩ := h
          cases hnext : ((l.step p.1 p.2).next).isUnlocking with
          | true =>
              obtain ⟨y, hy, hends⟩ := ih h hnext
              exact ⟨y, List.mem_cons_of_mem _ hy, hends⟩
          | false =>
              refine ⟨_, List.mem_cons_self, ?_⟩
              simp [Moment.endsUnlock, hl, Moment.after, Moment.step, hnext]

/-! ## After the drop -/

/-- Nobody could go on at the time. -/
def IsQuiet (now : Nat) (l : Lifecycle) : Prop := ∀ w t, l.dueAt w = some t → now < t

/-- The session is no longer in the hands of an owner. -/
def IsDropped : Lifecycle → Prop
  | .owned _ _ => False
  | _ => True

theorem isDropped_of_move (hm : Move now l e step) (h : IsDropped l ∨ ∃ b, e = .drop b) :
    IsDropped step.next := by
  cases hm with
  | @stay l e hig =>
      cases l with
      | owned s activity =>
          rcases h with h | ⟨b, rfl⟩
          · exact h
          · exact hig.elim
      | _ => trivial
  | @renewerWakes l r _ | @renewerAnswered l r _ _ =>
      cases l with
      | owned s activity => simp [IsDropped] at h
      | _ => trivial
  | handedOver _ _ | letGo _ | backgroundWaits _ _ _ | backgroundBreaks _ _ _
  | backgroundUnlocks _ _ | backgroundRetried _ _ | backgroundPaused _ _ _
  | backgroundDone _ _ => trivial
  | releaseWaits ha _ _ | releaseBreaks ha _ _ | releaseUnlocks ha _ _ | releaseLost ha _ =>
      cases ha <;> simp [IsDropped] at h
  | _ => simp [IsDropped] at h

/-- A background release that has not begun its call can go on. -/
theorem unlocksDue_of_quiet (h : Consistent autoRefresh g l) (hd : IsDropped l)
    (hq : IsQuiet now l) : l.unlocksDue = 0 := by
  cases l with
  | owned s activity => exact hd.elim
  | gone r => rfl
  | background b =>
      obtain ⟨-, grant, -, -, hb⟩ := h
      cases hst : b.stage with
      | ready =>
          -- it has not gone on yet, and can do so at any time
          have hnow := hq .holder 0 (by simp [dueAt, BackgroundRelease.dueAt, hst])
          exact absurd hnow (Nat.not_lt_zero now)
      | stopping =>
          simp only [hst] at hb
          cases halive : b.renewer.any (·.isAlive) with
          | true =>
              -- the renewer was asked to end, and can do so at any time
              obtain ⟨r, hr, hr'⟩ := (Option.any_eq_true _ _).1 halive
              have hnow := hq .renewer 0 (by
                simp [dueAt, Lifecycle.renewer?, hr, Renewer.dueAt, hr', hb r hr])
              exact absurd hnow (Nat.not_lt_zero now)
          | false =>
              -- there is nothing left to wait for
              have hnow := hq .holder 0 (by simp [dueAt, BackgroundRelease.dueAt, hst, halive])
              exact absurd hnow (Nat.not_lt_zero now)
      | unlocking run => simp [unlocksDue, hst]
      | done => simp [unlocksDue, hst]

theorem isDropped_of_run {es : List (Nat × Event)} {b : Bool} (h : (now, .drop b) ∈ es) :
    IsDropped (l.after es) := by
  obtain ⟨es₁, es₂, rfl⟩ := List.append_of_mem h
  rw [after_append, after_cons]
  exact after_of_step (fun l now e hl => isDropped_of_move (step_move l now e) (.inl hl))
    (isDropped_of_move (step_move _ _ _) (.inr ⟨b, rfl⟩)) es₂

/-! ## The whole -/

/-- Whatever is sent to give a lock back names the lock that was granted,
and is sent while no other call of the holder is under way. -/
theorem unlockRequest_of_run {policy : RetryPolicy} {es : List (Nat × Event)} {m : Moment}
    (hm : m ∈ (new policy autoRefresh).moments es) {u : UnlockRequest}
    (hu : m.sent = some (.unlock u)) :
    ∃ grant, granted ((new policy autoRefresh).moments es) = some grant ∧
      u = grant.unlockRequest ∧ m.before.isWaiting .holder = false := by
  obtain ⟨ms₁, ms₂, hsplit⟩ := List.append_of_mem hm
  obtain ⟨⟨grant, hg, hreq⟩, hwait, -⟩ := (sends_of_split hsplit hu).unlock
  exact ⟨grant, by rw [hsplit, granted_append, hg, Option.some_or], hreq, hwait⟩

/-- An invocation that gives the lock back ends before the next one begins. -/
theorem ends_before_next {policy : RetryPolicy} {es : List (Nat × Event)}
    {ms₁ ms₂ ms₃ : List Moment} {m m' : Moment}
    (hsplit : (new policy autoRefresh).moments es = ms₁ ++ m :: (ms₂ ++ m' :: ms₃))
    (hb : m.beginsUnlock = true) (hb' : m'.beginsUnlock = true) :
    ∃ x ∈ ms₂, x.endsUnlock = true := by
  simp only [Moment.beginsUnlock, Bool.and_eq_true, Bool.not_eq_true'] at hb hb'
  obtain ⟨u, hu⟩ := Moment.exists_unlock_of_sends hb.1
  obtain ⟨-, -, hun, -⟩ := (sends_of_split hsplit hu).unlock
  obtain ⟨es₁, es₂, -, -, -, hrest⟩ := moments_split hsplit
  exact ends_between hrest.symm hun hb'.2

/-- As long as no call breaks down and the session is dropped where its
release can run in the background: a lock that was not granted is not given
back; one that was granted is given back under its name and key, once and
once more for each release that was given up after its call had begun, one
invocation after the other; and a release that returned is the last. -/
theorem unlock_accounting (policy : RetryPolicy) (autoRefresh : Bool) (es : List (Nat × Event))
    (ho : ∀ p ∈ es, p.2.isOrderly = true) :
    let ms := (new policy autoRefresh).moments es
    (granted ms = none → ∀ m ∈ ms, m.sends .unlock = false) ∧
    ∀ grant, granted ms = some grant →
      (∀ m ∈ ms, ∀ u, m.sent = some (.unlock u) → u = grant.unlockRequest) ∧
      ms.countP Moment.beginsUnlock ≤ 1 + ms.countP Moment.abandonsUnlock ∧
      (∀ dropped background now, (dropped, .drop background) ∈ es →
        IsQuiet now ((new policy autoRefresh).after es) →
        ms.countP Moment.beginsUnlock = 1 + ms.countP Moment.abandonsUnlock) ∧
      (∀ m ∈ ms, m.sends .unlock = true → m.before.isWaiting .holder = false) ∧
      (∀ ms₁ m ms₂ m' ms₃, ms = ms₁ ++ m :: (ms₂ ++ m' :: ms₃) →
        m.beginsUnlock = true → m'.beginsUnlock = true → ∃ x ∈ ms₂, x.endsUnlock = true) ∧
      (∀ ms₁ m ms₂, ms = ms₁ ++ m :: ms₂ → (granted ms₁).isSome = true →
        m.returnsRelease = true → ∀ x ∈ ms₂, x.sends .unlock = false) := by
  intro ms
  have hsum : ms.countP Moment.beginsUnlock + ((new policy autoRefresh).after es).unlocksDue =
      ms.countP Moment.abandonsUnlock + (granted ms).isSome.toNat :=
    (account_of_run policy autoRefresh es ho).2
  refine ⟨?_, ?_⟩
  · -- whatever is sent would name a lock that was granted
    intro hnone m hm
    cases hs : m.sends .unlock with
    | false => rfl
    | true =>
        obtain ⟨u, hu⟩ := Moment.exists_unlock_of_sends hs
        obtain ⟨grant, hg, -⟩ := unlockRequest_of_run hm hu
        exact absurd (hnone.symm.trans hg) (by simp)
  intro grant hgrant
  rw [hgrant, Option.isSome_some, Bool.toNat_true] at hsum
  refine ⟨?_, by omega, ?_, ?_, ?_, ?_⟩
  · intro m hm u hu
    obtain ⟨grant', hg, hreq, -⟩ := unlockRequest_of_run hm hu
    obtain rfl := Option.some.inj (hgrant.symm.trans hg)
    exact hreq
  · -- after the drop, what is due begins before all is quiet
    intro dropped background now hdrop hq
    have hdue := unlocksDue_of_quiet (consistent_run policy autoRefresh es)
      (isDropped_of_run hdrop) hq
    omega
  · intro m hm hs
    obtain ⟨u, hu⟩ := Moment.exists_unlock_of_sends hs
    obtain ⟨-, -, -, hwait⟩ := unlockRequest_of_run hm hu
    exact hwait
  · intro ms₁ m ms₂ m' ms₃ hsplit hb hb'
    exact ends_before_next hsplit hb hb'
  · intro ms₁ m ms₂ hsplit hgranted hreturn
    exact sends_of_return ho hsplit hgranted hreturn

/-- A release that is given up after its call had begun, and a drop. -/
def abandonedRun : List (Nat × Event) :=
  grantedRun ++ [(1, .release), (1, .wake .renewer), (1, .wake .holder), (2, .abandon),
    (3, .drop true), (3, .wake .holder), (4, .answer (.unlocked (.response { unlocked := true })))]

/-- The lock is given back once more than releases were given up. -/
theorem unlock_accounting_abandoned :
    (∀ p ∈ abandonedRun, p.2.isOrderly = true) ∧
      ((new {} true).moments abandonedRun).countP Moment.abandonsUnlock = 1 ∧
      ((new {} true).moments abandonedRun).countP Moment.beginsUnlock =
        1 + ((new {} true).moments abandonedRun).countP Moment.abandonsUnlock := by
  have ho : ∀ p ∈ abandonedRun, p.2.isOrderly = true := by decide
  have hquiet : IsQuiet 4 ((new {} true).after abandonedRun) := by
    intro w t ht
    cases w <;> exact absurd ht (by decide +revert)
  obtain ⟨-, hgranted⟩ := unlock_accounting {} true abandonedRun ho
  obtain ⟨-, -, hcount, -⟩ := hgranted ⟨"job-42", "key-1", 20⟩ (by decide)
  exact ⟨ho, by decide, hcount 3 true 4 (by decide) hquiet⟩

end Lifecycle

end DistLock
