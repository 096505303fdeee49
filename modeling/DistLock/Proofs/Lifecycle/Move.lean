import DistLock.Lifecycle
import DistLock.Proofs.Renewal

/-!
# Moves

All that one event can do to the life of a session, move by move, with what
has to hold before each and all that is different after it. `step_move` says
that every step is one of these moves; whatever is shown of the life of a
session is shown of the moves.
-/

namespace DistLock

/-- The session while its owner begins to give the lock back. -/
def Session.beginRelease (s : Session) : Session :=
  { s with state := .releasing, renewer := s.renewer.map (·.cancel) }

/-- The session when its renewer has ended and is forgotten. -/
def Session.forgetRenewer (s : Session) : Session := { s with renewer := none }

/-- The call that gives back the lock of a handle. -/
def Session.unlockRun (s : Session) (h : LockHandle) : Run UnlockRequest :=
  .start (unlockInvocation s.policy ⟨h.name, h.secret⟩)

/-- The release of a session that is dropped with a handle. -/
def Session.handOver (s : Session) (h : LockHandle) : BackgroundRelease :=
  { policy := s.policy, request := ⟨h.name, h.secret⟩, renewer := s.renewer }

/-- The release when its renewer has ended: the lock is given back. -/
def BackgroundRelease.beginUnlock (b : BackgroundRelease) : BackgroundRelease :=
  { b with renewer := none, stage := .unlocking (.start (unlockInvocation b.policy b.request)) }

/-- There is no renewer, or it has ended without breaking down. -/
def RenewalOver (r : Option Renewer) : Prop :=
  ∀ x, r = some x → x.isRunning = false ∧ x.isBroken = false

/-- An owner who looks for the end of its renewer:
`AwaitsEnd s activity e t` says that the event `e` makes it look, and that
the session is `t` then. -/
inductive AwaitsEnd (s : Session) : Activity → Event → Session → Prop
  | first : s.owesUnlock = true → AwaitsEnd s .resting .release s.beginRelease
  | again : AwaitsEnd s .stopping (.wake .holder) s

/-- A background release that looks for the end of its renewer. -/
inductive BackgroundRelease.AwaitsEnd (b : BackgroundRelease) : BackgroundRelease → Prop
  | first : b.stage = .ready → AwaitsEnd b { b with renewer := b.renewer.map (·.cancel) }
  | again : b.stage = .stopping → AwaitsEnd b b

namespace Lifecycle

/-- The event does not fit, or comes too early: something else is under way,
nobody waits for the answer, or there is nobody who could go on. -/
def Ignores (now : Nat) : Lifecycle → Event → Prop
  | .owned _ activity, .acquire _ => activity ≠ .resting
  | .owned _ activity, .release => activity ≠ .resting
  | .owned _ _, .abandon => False
  | .owned _ _, .drop _ => False
  | .owned _ (.acquiring _ run), .answer (.acquired _) => run.isWaiting = false
  | .owned _ (.unlocking _ run), .answer (.unlocked _) => run.isWaiting = false
  | .owned _ .stopping, .wake .holder => False
  | .owned _ (.acquiring _ run), .wake .holder => run.resume? now = none
  | .owned _ (.unlocking _ run), .wake .holder => run.resume? now = none
  | .background b, .answer (.unlocked _) => b.isWaiting = false
  | .background b, .wake .holder =>
    match b.stage with
    | .ready | .stopping => False
    | .unlocking run => run.resume? now = none
    | .done => True
  | l, .answer (.refreshed _) => l.renewer? = none
  | l, .wake .renewer => l.renewer? = none
  | _, _ => True

/-- `Move now l e s`: at the time `now`, the event `e` does `s`
to the life `l`. -/
inductive Move (now : Nat) : Lifecycle → Event → Step Lifecycle OwnerResult → Prop
  | stay {l e} : Ignores now l e → Move now l e (.stay l)
  | renewerWakes {l r} : l.renewer? = some r →
      Move now l (.wake .renewer) (((r.wake now).lift l.setRenewer).silent)
  | renewerAnswered {l r} (reply) : l.renewer? = some r →
      Move now l (.answer (.refreshed reply)) (((r.answer now reply).lift l.setRenewer).silent)
  /-- The wish for a lock is refused without a call. -/
  | acquireRefused {s a error} : s.begin a = .error error →
      Move now (.owned s .resting) (.acquire a)
        { next := .owned s .resting, result := some (.acquired (.error error)) }
  | acquireBegun {s a} : s.begin a = .ok { s with state := .acquiring } →
      Move now (.owned s .resting) (.acquire a)
        { next := .owned { s with state := .acquiring }
            (.acquiring a (.start ⟨s.policy, a.operation, a.request, 0⟩))
          sent := some a.request }
  | acquireRetried {s a run run'} : run.resume? now = some run' →
      Move now (.owned s (.acquiring a run)) (.wake .holder)
        { next := .owned s (.acquiring a run'), sent := some run'.request }
  | acquirePaused {s a run run' reply log} : run.isWaiting = true →
      run.answer now reply = (.pausing run', log) →
      Move now (.owned s (.acquiring a run)) (.answer (.acquired reply))
        { next := .owned s (.acquiring a run'), log }
  | granted {s a run reply key log} : run.isWaiting = true → reply.key? = some key →
      Move now (.owned s (.acquiring a run)) (.answer (.acquired reply))
        { next := .owned (s.grant a key now).1 .resting
          log
          result := some (.acquired (.ok (.held a.name key now))) }
  | notGranted {s a run reply log outcome} : run.isWaiting = true → reply.key? = none →
      (∀ text, reply ≠ .crash text) →
      (outcome = .ok (.notHeld a.name) ∨ ∃ e, reply.outcome = .error e ∧ outcome = .error e) →
      Move now (.owned s (.acquiring a run)) (.answer (.acquired reply))
        { next := .owned (s.refuse a.name) .resting, log, result := some (.acquired outcome) }
  | acquireCrashed {s a run text log} : run.isWaiting = true →
      Move now (.owned s (.acquiring a run)) (.answer (.acquired (.crash text)))
        { next := .owned s .resting, log, result := some (.acquired (.crash text)) }
  /-- There is no lock to give back. -/
  | releaseIdle {s} : s.owesUnlock = false →
      Move now (.owned s .resting) .release
        { next := .owned s .resting, result := some (.released (.ok ())) }
  | releaseWaits {s activity e t r} : AwaitsEnd s activity e t → t.renewer = some r →
      r.isRunning = true →
      Move now (.owned s activity) e (.stay (.owned t .stopping))
  | releaseBreaks {s activity e t r text} : AwaitsEnd s activity e t → t.renewer = some r →
      r.isBroken = true →
      Move now (.owned s activity) e
        { next := .owned { t with renewer := some { r with joined := true } } .resting
          result := some (.released (.crash text)) }
  | releaseUnlocks {s activity e t h renewal log} : AwaitsEnd s activity e t →
      RenewalOver t.renewer → t.handle = some h →
      Move now (.owned s activity) e
        { next := .owned t.forgetRenewer (.unlocking renewal (t.unlockRun h))
          sent := some (.unlock ⟨h.name, h.secret⟩)
          log }
  /-- There is no telling which lock to give back. -/
  | releaseLost {s activity e t log} : AwaitsEnd s activity e t → t.handle = none →
      Move now (.owned s activity) e
        { next := .owned { t.forgetRenewer with state := .released } .resting
          log
          result := some (.released
            (.error (.invalidState "held session without a handle"))) }
  | unlockRetried {s renewal run run'} : run.resume? now = some run' →
      Move now (.owned s (.unlocking renewal run)) (.wake .holder)
        { next := .owned s (.unlocking renewal run'), sent := some (.unlock run'.request) }
  | unlockPaused {s renewal run run' reply log} : run.isWaiting = true →
      run.answer now reply = (.pausing run', log) →
      Move now (.owned s (.unlocking renewal run)) (.answer (.unlocked reply))
        { next := .owned s (.unlocking renewal run'), log }
  | released {s renewal run reply log outcome} : run.isWaiting = true →
      (∀ text, reply ≠ .crash text) →
      (s.concludeRelease run.request.name renewal reply.outcome).result = some outcome →
      Move now (.owned s (.unlocking renewal run)) (.answer (.unlocked reply))
        { next := .owned s.markReleased .resting, log, result := some (.released outcome) }
  | unlockCrashed {s renewal run text log} : run.isWaiting = true →
      Move now (.owned s (.unlocking renewal run)) (.answer (.unlocked (.crash text)))
        { next := .owned s .resting, log, result := some (.released (.crash text)) }
  | abandoned {s activity} : Move now (.owned s activity) .abandon (.stay (.owned s .resting))
  | handedOver {s activity h log} : s.owesUnlock = true → s.handle = some h →
      Move now (.owned s activity) (.drop true) { next := .background (s.handOver h), log }
  /-- The session is gone, and nothing gives its lock back, if it had one. -/
  | letGo {s activity background log} : (background = true → s.owesUnlock = false) →
      Move now (.owned s activity) (.drop background)
        { next := .gone (s.renewer.map (·.cancel)), log }
  | backgroundWaits {b t r} : b.AwaitsEnd t → t.renewer = some r → r.isRunning = true →
      Move now (.background b) (.wake .holder) (.stay (.background { t with stage := .stopping }))
  | backgroundBreaks {b t r} : b.AwaitsEnd t → t.renewer = some r → r.isBroken = true →
      Move now (.background b) (.wake .holder)
        (.stay (.background { t with renewer := none, stage := .done }))
  | backgroundUnlocks {b t log} : b.AwaitsEnd t → RenewalOver t.renewer →
      Move now (.background b) (.wake .holder)
        { next := .background t.beginUnlock, sent := some (.unlock t.request), log }
  | backgroundRetried {b run run'} : b.stage = .unlocking run → run.resume? now = some run' →
      Move now (.background b) (.wake .holder)
        { next := .background { b with stage := .unlocking run' }
          sent := some (.unlock run'.request) }
  | backgroundPaused {b run run' reply log} : b.stage = .unlocking run → run.isWaiting = true →
      run.answer now reply = (.pausing run', log) →
      Move now (.background b) (.answer (.unlocked reply))
        { next := .background { b with stage := .unlocking run' }, log }
  | backgroundDone {b run reply log} : b.stage = .unlocking run → run.isWaiting = true →
      Move now (.background b) (.answer (.unlocked reply))
        { next := .background { b with stage := .done }, log }

end Lifecycle

open Lifecycle

variable {now : Nat} {s t : Session} {activity : Activity} {e : Event}

/-! ## The moves of an owner -/

/-- A lock that is owed has a handle. -/
theorem Session.handle_of_owesUnlock (h : s.owesUnlock = true) :
    ∃ x, s.handle = some x ∧ x.locked = true := by
  simp only [Session.owesUnlock, Session.isLocked, Bool.and_eq_true, Option.any_eq_true] at h
  exact h.2

theorem Session.begin_eq_ok {a : Acquisition} (h : s.begin a = .ok t) :
    t = { s with state := .acquiring } ∧ s.state = .idle ∧ a.name ≠ "" ∧ a.check = .ok () := by
  unfold Session.begin at h
  cases hc : a.check with
  | error e => simp [hc, bind, Except.bind] at h
  | ok u =>
      by_cases hs : s.state = .idle
      · by_cases hn : a.name = ""
        · simp [hc, hs, hn, bind, Except.bind, throw, throwThe, MonadExceptOf.throw] at h
        · simp [hc, hs, hn, bind, Except.bind, pure, Except.pure] at h
          exact ⟨h.symm, hs, hn, rfl⟩
      · simp [hc, hs, bind, Except.bind, throw, throwThe, MonadExceptOf.throw] at h

theorem Session.startAcquire_move (a : Acquisition) :
    Move now (.owned s .resting) (.acquire a) (s.startAcquire a) := by
  unfold Session.startAcquire
  cases hb : s.begin a with
  | error error => exact .acquireRefused hb
  | ok t =>
      obtain ⟨rfl, -⟩ := Session.begin_eq_ok hb
      exact .acquireBegun hb

theorem Session.sendUnlock_move {renewal : Option ClientError} {log : List LogEvent}
    (ha : AwaitsEnd s activity e t) (hr : RenewalOver t.renewer) :
    Move now (.owned s activity) e ((t.forgetRenewer.sendUnlock renewal).after log) := by
  unfold Session.sendUnlock
  split
  · rename_i h hh
    exact .releaseUnlocks ha hr hh
  · rename_i hh
    exact .releaseLost ha hh

theorem Session.awaitRenewer_move (ha : AwaitsEnd s activity e t) :
    Move now (.owned s activity) e t.awaitRenewer := by
  unfold Session.awaitRenewer
  cases hr : t.renewer with
  | none =>
      have hforget : t.forgetRenewer = t := by
        cases t
        simp_all [Session.forgetRenewer]
      have hmove : Move now (.owned s activity) e ((t.forgetRenewer.sendUnlock none).after []) :=
        Session.sendUnlock_move ha (by simp [RenewalOver, hr])
      rw [hforget] at hmove
      exact hmove
  | some r =>
      cases hrun : r.isRunning with
      | true =>
          simp only [Renewer.join_running hrun, Step.stay]
          exact .releaseWaits ha hr hrun
      | false =>
          cases hb : r.isBroken with
          | true =>
              obtain ⟨text, hres, hnext⟩ := Renewer.join_broken hb
              simp only [hres, hnext]
              exact .releaseBreaks ha hr hb
          | false =>
              have hover : RenewalOver t.renewer := by
                intro x hx
                rw [hr, Option.some.injEq] at hx
                exact hx ▸ ⟨hrun, hb⟩
              rcases Renewer.join_over hrun hb with hres | ⟨err, hres⟩
              · simp only [hres]
                exact Session.sendUnlock_move ha hover
              · simp only [hres]
                exact Session.sendUnlock_move ha hover

theorem Session.startRelease_move : Move now (.owned s .resting) .release s.startRelease := by
  unfold Session.startRelease
  cases ho : s.owesUnlock with
  | true => exact Session.awaitRenewer_move (.first ho)
  | false => exact .releaseIdle ho

theorem Session.drop_move (background : Bool) :
    Move now (.owned s activity) (.drop background) (s.drop background) := by
  unfold Session.drop
  cases ho : s.owesUnlock with
  | true =>
      obtain ⟨h, hh, -⟩ := Session.handle_of_owesUnlock ho
      simp only [hh, if_true]
      cases background with
      | true => exact .handedOver ho hh
      | false => exact .letGo (by simp)
  | false => exact .letGo fun _ => ho

/-- The end of an acquisition: the lock is granted, or not, or the
call broke down. -/
theorem Session.complete_move {a : Acquisition} {run : Run Request} {reply : Reply LockResponse}
    {log : List LogEvent} (hw : run.isWaiting = true) :
    Move now (.owned s (.acquiring a run)) (.answer (.acquired reply))
      ((((s.complete a now reply.outcome).lift (.owned · .resting)).returning
        ((s.complete a now reply.outcome).result.map .acquired)).after log) := by
  unfold Session.complete
  cases ho : reply.outcome with
  | ok r =>
      simp only [Acquisition.soften]
      cases hl : r.locked with
      | true =>
          have hkey : reply.key? = some r.key := by simp [Reply.key?, ho, hl]
          exact .granted hw hkey
      | false =>
          have hkey : reply.key? = none := by simp [Reply.key?, ho, hl]
          refine .notGranted hw hkey ?_ (.inl rfl)
          rintro text rfl
          simp [Reply.outcome] at ho
  | error err =>
      have hkey : reply.key? = none := by simp [Reply.key?, ho]
      have hcrash : ∀ text, reply ≠ .crash text := by
        rintro text rfl
        simp [Reply.outcome] at ho
      by_cases hsoft : err = .lockWaitTimeout ∧ (a.waits && !a.options.raiseOnWaitTimeout) = true
      · obtain ⟨rfl, hsoft⟩ := hsoft
        simp only [Acquisition.soften, hsoft, if_true, LockResponse.refused]
        exact .notGranted hw hkey hcrash (.inl rfl)
      · have hsame : a.soften (.error err) = (.error err, []) := by
          unfold Acquisition.soften
          split
          · rename_i heq
            simp only [Outcome.error.injEq] at heq
            rw [if_neg fun h => hsoft ⟨heq, h⟩, heq]
          · rfl
        simp only [hsame]
        exact .notGranted hw hkey hcrash (.inr ⟨err, ho, rfl⟩)
  | crash text =>
      obtain rfl := Reply.eq_crash_of_outcome ho
      exact .acquireCrashed hw

/-- A call that was answered ends the release, whatever the answer is. -/
theorem Session.concludeRelease_eq (s : Session) (name : String) (renewal : Option ClientError)
    {outcome : Outcome UnlockResponse} (hcrash : ∀ text, outcome ≠ .crash text) :
    ∃ log o, s.concludeRelease name renewal outcome =
      { next := s.markReleased, log, result := some o } := by
  cases outcome with
  | ok r =>
      cases hu : r.unlocked with
      | true => exact ⟨_, _, by simp only [Session.concludeRelease, hu, if_true]; rfl⟩
      | false => exact ⟨_, _, by simp only [Session.concludeRelease, hu]; rfl⟩
  | error err => exact ⟨_, _, rfl⟩
  | crash text => exact absurd rfl (hcrash text)

/-- The end of the call that gives the lock back: it is given back, or the
call broke down. -/
theorem Session.concludeRelease_move {renewal : Option ClientError} {run : Run UnlockRequest}
    {reply : Reply UnlockResponse} {log : List LogEvent} (hw : run.isWaiting = true) :
    Move now (.owned s (.unlocking renewal run)) (.answer (.unlocked reply))
      ((((s.concludeRelease run.request.name renewal reply.outcome).lift
        (.owned · .resting)).returning ((s.concludeRelease run.request.name renewal
          reply.outcome).result.map .released)).after log) := by
  by_cases hcrash : ∃ text, reply = .crash text
  · obtain ⟨text, rfl⟩ := hcrash
    exact .unlockCrashed hw
  · have hreply : ∀ text, reply ≠ .crash text := fun text h => hcrash ⟨text, h⟩
    have houtcome : ∀ text, reply.outcome ≠ .crash text :=
      fun text h => hreply text (Reply.eq_crash_of_outcome h)
    obtain ⟨more, o, heq⟩ := s.concludeRelease_eq run.request.name renewal houtcome
    rw [heq]
    exact .released hw hreply (congrArg Step.result heq)

theorem Activity.answer_move (a : Answer) (ha : ∀ reply, a ≠ .refreshed reply) :
    Move now (.owned s activity) (.answer a) (activity.answer s now a) := by
  cases a with
  | refreshed reply => exact absurd rfl (ha reply)
  | acquired reply =>
      cases activity with
      | acquiring a run =>
          simp only [Activity.answer]
          cases hw : run.isWaiting with
          | false => exact .stay hw
          | true =>
              cases hp : run.answer now reply with
              | mk progress log =>
                  cases progress with
                  | pausing run' => exact .acquirePaused hw hp
                  | finished outcome =>
                      obtain rfl := Run.answer_finished hp
                      exact Session.complete_move hw
      | _ => exact .stay trivial
  | unlocked reply =>
      cases activity with
      | unlocking renewal run =>
          simp only [Activity.answer]
          cases hw : run.isWaiting with
          | false => exact .stay hw
          | true =>
              cases hp : run.answer now reply with
              | mk progress log =>
                  cases progress with
                  | pausing run' => exact .unlockPaused hw hp
                  | finished outcome =>
                      obtain rfl := Run.answer_finished hp
                      exact Session.concludeRelease_move hw
      | _ => exact .stay trivial

theorem Activity.wake_move :
    Move now (.owned s activity) (.wake .holder) (activity.wake s now) := by
  cases activity with
  | resting => exact .stay trivial
  | acquiring a run =>
      simp only [Activity.wake]
      cases hr : run.resume? now with
      | none => exact .stay hr
      | some run' => exact .acquireRetried hr
  | stopping => exact Session.awaitRenewer_move .again
  | unlocking renewal run =>
      simp only [Activity.wake]
      cases hr : run.resume? now with
      | none => exact .stay hr
      | some run' => exact .unlockRetried hr

/-! ## The moves of a background release -/

namespace BackgroundRelease

variable {b b' : BackgroundRelease}

theorem awaitRenewer_move (ha : b.AwaitsEnd b') :
    Move now (.background b) (.wake .holder) (b'.awaitRenewer.lift .background) := by
  unfold BackgroundRelease.awaitRenewer
  cases hr : b'.renewer with
  | none => exact .backgroundUnlocks ha (by simp [RenewalOver, hr])
  | some r =>
      cases hrun : r.isRunning with
      | true =>
          simp only [Renewer.join_running hrun, Step.stay]
          rw [← hr]
          exact .backgroundWaits ha hr hrun
      | false =>
          cases hb : r.isBroken with
          | true =>
              obtain ⟨text, hres, -⟩ := Renewer.join_broken hb
              simp only [hres]
              exact .backgroundBreaks ha hr hb
          | false =>
              have hover : RenewalOver b'.renewer := by
                intro x hx
                rw [hr, Option.some.injEq] at hx
                exact hx ▸ ⟨hrun, hb⟩
              rcases Renewer.join_over hrun hb with hres | ⟨err, hres⟩
              · simp only [hres]
                exact .backgroundUnlocks ha hover
              · simp only [hres]
                exact .backgroundUnlocks ha hover

theorem wake_move : Move now (.background b) (.wake .holder) ((b.wake now).lift .background) := by
  unfold BackgroundRelease.wake
  split
  · rename_i hs
    exact awaitRenewer_move (.first hs)
  · rename_i hs
    exact awaitRenewer_move (.again hs)
  · rename_i run hs
    cases hr : run.resume? now with
    | none => exact .stay (by simp only [Ignores, hs, hr])
    | some run' => exact .backgroundRetried hs hr
  · rename_i hs
    exact .stay (by simp only [Ignores, hs])

theorem answer_move (reply : Reply UnlockResponse) :
    Move now (.background b) (.answer (.unlocked reply))
      ((b.answer now reply).lift .background) := by
  unfold BackgroundRelease.answer
  split
  · rename_i run hs
    cases hw : run.isWaiting with
    | false => exact .stay (by simp only [Ignores, BackgroundRelease.isWaiting, hs, hw])
    | true =>
        cases hp : run.answer now reply with
        | mk progress log =>
            cases progress with
            | pausing run' => exact .backgroundPaused hs hw hp
            | finished outcome => exact .backgroundDone hs hw
  · exact .stay (by simp only [Ignores, BackgroundRelease.isWaiting])

end BackgroundRelease

/-! ## Every step is a move -/

theorem Lifecycle.step_move (l : Lifecycle) (now : Nat) (e : Event) :
    Move now l e (l.step now e) := by
  cases e with
  | acquire a =>
      cases l with
      | owned s activity =>
          cases activity with
          | resting => exact Session.startAcquire_move a
          | _ => exact .stay (by simp [Ignores])
      | _ => exact .stay trivial
  | release =>
      cases l with
      | owned s activity =>
          cases activity with
          | resting => exact Session.startRelease_move
          | _ => exact .stay (by simp [Ignores])
      | _ => exact .stay trivial
  | abandon =>
      cases l with
      | owned s activity => exact .abandoned
      | _ => exact .stay trivial
  | drop background =>
      cases l with
      | owned s activity => exact Session.drop_move background
      | _ => exact .stay trivial
  | answer a =>
      cases a with
      | acquired reply =>
          cases l with
          | owned s activity => exact Activity.answer_move _ (by simp)
          | _ => exact .stay trivial
      | refreshed reply =>
          unfold Lifecycle.step Lifecycle.onRenewer
          cases hr : l.renewer? with
          | none => exact .stay (by cases l <;> exact hr)
          | some r => exact .renewerAnswered reply hr
      | unlocked reply =>
          cases l with
          | owned s activity => exact Activity.answer_move _ (by simp)
          | background b => exact BackgroundRelease.answer_move reply
          | gone r => exact .stay trivial
  | wake w =>
      cases w with
      | holder =>
          cases l with
          | owned s activity => exact Activity.wake_move
          | background b => exact BackgroundRelease.wake_move
          | gone r => exact .stay trivial
      | renewer =>
          unfold Lifecycle.step Lifecycle.onRenewer
          cases hr : l.renewer? with
          | none => exact .stay (by cases l <;> exact hr)
          | some r => exact .renewerWakes hr

end DistLock
