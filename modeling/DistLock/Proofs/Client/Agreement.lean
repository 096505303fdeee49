import DistLock.Proofs.Client.Course
import DistLock.Proofs.Client.Decisions
import DistLock.Proofs.Lifecycle.ReleaseOutcome

/-!
# Direct calls agree with sessions

The service can be called directly with the name and the key of a lock, and
a session and its renewer call it with the lock that they hold. Both make
the same of what comes:

* a direct return of a lock stays beside the release of a session that has
  no renewer, and says in its own way what the release says
  (`Unlocking.meet`, `SaysAlike`);
* a direct request for a fresh lease stays beside one renewal of a renewer,
  and both end on the same reply (`Renewing.meet`, `EndsAlike`).

A renewer has one error for two answers: that the lock is not locked, and a
response without a decision that does not say that it is. A direct call
returns the response then.
-/

namespace DistLock

/-- Two steps send the same, and what one comes to fits what the
other comes to. -/
structure ActAlike {σ σ' τ τ' : Type} (R : τ → τ' → Prop) (s : Step σ τ) (s' : Step σ' τ') :
    Prop where
  sent : s'.sent = s.sent
  result : Option.Rel R s.result s'.result

/-! ## The return of a lock -/

/-- What a direct return of a lock came to, and what the release of a
session came to. -/
structure SaysAlike (name : String) (o : Outcome Bool) (o' : Outcome Unit) : Prop where
  taken : o = .ok true ↔ o' = .ok ()
  refused : o = .ok false ↔ o' = .error (.releaseFailed name "server reported unlocked=false")
  decided : ∀ e, e.isServerDecision = true →
    (o = .error e ↔ o' = .error (.releaseFailed name e.message))
  unanswered : ∀ status, o = .error (.unanswered status) ↔ o' = .error (.unanswered status)
  crashed : ∀ text, o = .crash text ↔ o' = .crash text
  /-- There is no other error. -/
  remote : ∀ e, o = .error e → e.IsRemote

/-- How a release says what a direct return says. -/
def ofDirect (name : String) : Outcome Bool → Outcome Unit
  | .ok true => .ok ()
  | .ok false => .error (.releaseFailed name "server reported unlocked=false")
  | .error e => .error (if e.isServerDecision then .releaseFailed name e.message else e)
  | .crash text => .crash text

theorem saysAlike_ofDirect {name : String} {o : Outcome Bool}
    (hremote : ∀ e, o = .error e → e.IsRemote) : SaysAlike name o (ofDirect name o) := by
  have hmessage (e : ClientError) (he : e.isServerDecision = true) :
      "server reported unlocked=false" ≠ e.message :=
    (ClientError.message_ne_of_isServerDecision he).symm
  cases o with
  | ok unlocked =>
      cases unlocked with
      | true => exact ⟨by simp [ofDirect], by simp [ofDirect], by simp [ofDirect],
          by simp [ofDirect], by simp [ofDirect], hremote⟩
      | false => exact ⟨by simp [ofDirect], by simp [ofDirect],
          fun e he => by simp [ofDirect, hmessage e he], by simp [ofDirect], by simp [ofDirect],
          hremote⟩
  | error e =>
      rcases hremote e rfl with ⟨status, rfl⟩ | he
      · have hunanswered : ofDirect name (.error (.unanswered status)) =
          .error (.unanswered status) := rfl
        rw [hunanswered]
        refine ⟨by simp, by simp, fun e he => iff_of_false ?_ (by simp), by simp, by simp, hremote⟩
        rintro ⟨⟩
        cases he
      · have hdecided : ofDirect name (.error e) = .error (.releaseFailed name e.message) := by
          simp only [ofDirect, he, if_true]
        rw [hdecided]
        refine ⟨by simp, by simp [(hmessage e he).symm], fun e' he' => ?_, fun status => ?_,
          by simp, hremote⟩
        · simp only [Outcome.error.injEq, ClientError.releaseFailed.injEq, true_and]
          exact ⟨congrArg _, ClientError.eq_of_message he he'⟩
        · refine iff_of_false ?_ (by simp)
          rintro ⟨⟩
          cases he
  | crash text => exact ⟨by simp [ofDirect], by simp [ofDirect], by simp [ofDirect],
      by simp [ofDirect], by simp [ofDirect], hremote⟩

/-- Without a renewal that had failed, a release returns what a direct
return does, in its own way. -/
theorem concludeRelease_eq_ofDirect (s : Session) (name : String)
    (outcome : Outcome UnlockResponse) :
    ∃ t log, t.renewer = s.renewer ∧ s.concludeRelease name none outcome =
      { next := t, log, result := some (ofDirect name (DirectCall.unlockedFlag outcome)) } := by
  cases outcome with
  | ok r =>
      cases hu : r.unlocked with
      | true =>
          exact ⟨s.markReleased, [.lockReleased name], rfl, by
            simp [Session.concludeRelease, DirectCall.unlockedFlag, ofDirect, hu]⟩
      | false =>
          exact ⟨s.markReleased, [], rfl, by
            simp [Session.concludeRelease, DirectCall.unlockedFlag, ofDirect, hu]⟩
  | error e => exact ⟨s.markReleased, [], rfl, rfl⟩
  | crash text => exact ⟨s, [], rfl, rfl⟩

/-- A final reply makes both say alike what came of the call. -/
theorem saysAlike_of_reply (name : String) (reply : Reply UnlockResponse) :
    SaysAlike name (DirectCall.unlockedFlag reply.outcome)
      (ofDirect name (DirectCall.unlockedFlag reply.outcome)) := by
  refine saysAlike_ofDirect fun e he => ?_
  cases ho : reply.outcome with
  | error e' =>
      rw [ho] at he
      obtain rfl := Outcome.error.inj he
      exact Reply.isRemote_of_outcome ho
  | ok r | crash text =>
      rw [ho] at he
      cases he

/-- The results of both, of the same kind. -/
def ReturnsAlike (name : String) (r : DirectResult) (r' : OwnerResult) : Prop :=
  ∃ o o', r = .unlocked o ∧ r' = .released o' ∧ SaysAlike name o o'

/-- When a direct return of a lock ends, so does the release. -/
theorem exists_released {name : String} {x : Option DirectResult} {x' : Option OwnerResult}
    {o : Outcome Bool} (h : Option.Rel (ReturnsAlike name) x x') (hx : x = some (.unlocked o)) :
    ∃ o', x' = some (.released o') ∧ SaysAlike name o o' := by
  cases h with
  | none => cases hx
  | some h =>
      obtain ⟨o₁, o₂, rfl, rfl, hsays⟩ := h
      obtain ⟨⟩ := hx
      exact ⟨o₂, rfl, hsays⟩

/-- `Unlocking start start' name d l`: the direct return of a lock and
the release of a session with the same lock stand alike, each counted
from its own beginning. -/
inductive Unlocking (start start' : Nat) (name : String) : DirectCall → Lifecycle → Prop
  | underWay {s : Session} {run run' : Run UnlockRequest} : s.renewer = none →
      Run.Beside start start' run run' → run'.request.name = name →
      Unlocking start start' name (.unlock run) (.owned s (.unlocking none run'))
  | done {s : Session} : s.renewer = none → Unlocking start start' name .over (.owned s .resting)

section

variable {start start' : Nat} {name : String} {d : DirectCall} {l : Lifecycle}

/-- Both pause until equally long after their beginning. -/
theorem Unlocking.dueAt (h : Unlocking start start' name d l) : ∃ due : Option Nat,
    d.dueAt = due.map (start + ·) ∧ l.dueAt .holder = due.map (start' + ·) := by
  cases h with
  | underWay _ hrun _ => exact hrun.pause
  | done _ => exact ⟨none, rfl, rfl⟩

/-- What makes neither do anything leaves both where they are. -/
theorem Unlocking.stay (h : Unlocking start start' name d l) {s : Step DirectCall DirectResult}
    {s' : Step Lifecycle OwnerResult} (hs : s = .stay d) (hs' : s' = .stay l) :
    ActAlike (ReturnsAlike name) s s' ∧ Unlocking start start' name s.next s'.next := by
  subst hs hs'
  exact ⟨⟨rfl, .none⟩, h⟩

/-- A reply to the call ends both, or makes both pause. -/
theorem Unlocking.answer (h : Unlocking start start' name d l) (t : Nat)
    (reply : Reply UnlockResponse) :
    ActAlike (ReturnsAlike name) (d.answer (start + t) (.unlocked reply))
        (l.step (start' + t) (.answer (.unlocked reply))) ∧
      Unlocking start start' name (d.answer (start + t) (.unlocked reply)).next
        (l.step (start' + t) (.answer (.unlocked reply))).next := by
  cases h with
  | done hr => exact (Unlocking.done hr).stay rfl rfl
  | @underWay s run run' hr hrun hname =>
      cases hw : run.isWaiting with
      | false =>
          refine (Unlocking.underWay hr hrun hname).stay ?_ ?_
          · simp [DirectCall.answer, DirectCall.isWaiting, hw]
          · simp [Lifecycle.step, Activity.answer, hrun.isWaiting, hw]
      | true =>
          obtain ⟨log, ⟨hd, hl⟩ | ⟨next, next', hd, hl, hnext⟩⟩ := hrun.answer t reply
          · -- the reply is final
            obtain ⟨s', log', hs', hconclude⟩ :=
              concludeRelease_eq_ofDirect s run'.request.name reply.outcome
            have hdirect : (DirectCall.unlock run).answer (start + t) (.unlocked reply) =
                { next := .over, log
                  result := some (.unlocked (DirectCall.unlockedFlag reply.outcome)) } := by
              simp [DirectCall.answer, DirectCall.isWaiting, hw, hd]
            have hrelease : (Lifecycle.owned s (.unlocking none run')).step (start' + t)
                (.answer (.unlocked reply)) =
                { next := .owned s' .resting, log := log ++ log'
                  result := some (.released (ofDirect run'.request.name
                    (DirectCall.unlockedFlag reply.outcome))) } := by
              simp [Lifecycle.step, Activity.answer, hrun.isWaiting, hw, hl, hconclude, Step.lift,
                Step.returning, Step.after]
            rw [hdirect, hrelease, hname]
            exact ⟨⟨rfl, .some ⟨_, _, rfl, rfl, saysAlike_of_reply name reply⟩⟩,
              .done (hs'.trans hr)⟩
          · -- both pause
            have hrequest : next'.request.name = name := by
              rw [(Run.answer_pausing hl).1, hname]
            have hdirect : (DirectCall.unlock run).answer (start + t) (.unlocked reply) =
                { next := .unlock next, log } := by
              simp [DirectCall.answer, DirectCall.isWaiting, hw, hd]
            have hrelease : (Lifecycle.owned s (.unlocking none run')).step (start' + t)
                (.answer (.unlocked reply)) =
                { next := .owned s (.unlocking none next'), log } := by
              simp [Lifecycle.step, Activity.answer, hrun.isWaiting, hw, hl]
            rw [hdirect, hrelease]
            exact ⟨⟨rfl, .none⟩, .underWay hr hnext hrequest⟩

/-- When both may go on, both do, with the same request, or neither. -/
theorem Unlocking.wake (h : Unlocking start start' name d l) (t : Nat) :
    ActAlike (ReturnsAlike name) (d.wake (start + t)) (l.step (start' + t) (.wake .holder)) ∧
      Unlocking start start' name (d.wake (start + t)).next
        (l.step (start' + t) (.wake .holder)).next := by
  cases h with
  | done hr => exact (Unlocking.done hr).stay rfl rfl
  | @underWay s run run' hr hrun hname =>
      rcases hrun.resume? t with ⟨hd, hl⟩ | ⟨next, next', hd, hl, hnext⟩
      · refine (Unlocking.underWay hr hrun hname).stay ?_ ?_
        · simp only [DirectCall.wake, hd]
        · simp only [Lifecycle.step, Activity.wake, hl]
      · have hrequest : next'.request.name = name := by
          rw [(Run.resume?_eq_some hl).2.1, hname]
        have hdirect : (DirectCall.unlock run).wake (start + t) =
            { next := .unlock next, sent := some (.unlock next.request) } := by
          simp only [DirectCall.wake, hd]
        have hrelease : (Lifecycle.owned s (.unlocking none run')).step (start' + t)
            (.wake .holder) =
            { next := .owned s (.unlocking none next')
              sent := some (.unlock next'.request) } := by
          simp only [Lifecycle.step, Activity.wake, hl]
        rw [hdirect, hrelease, hnext.request]
        exact ⟨⟨rfl, .none⟩, .underWay hr hnext hrequest⟩

/-- Whatever happens to both, both do alike and stay beside each other. -/
theorem Unlocking.meet (h : Unlocking start start' name d l) (t : Nat) (ev : CallEvent) :
    ActAlike (ReturnsAlike name) (d.meet (start + t) ev) (l.meet (start' + t) ev) ∧
      Unlocking start start' name (d.meet (start + t) ev).next (l.meet (start' + t) ev).next := by
  cases ev with
  | wake => exact h.wake t
  | answer a =>
      cases a with
      | unlocked reply => exact h.answer t reply
      | acquired reply =>
          -- none of them asked for a lock
          refine h.stay ?_ ?_
          · cases h <;> simp [DirectCall.meet, DirectCall.answer]
          · cases h <;> rfl
      | refreshed reply =>
          -- there is no renewer that would be answered
          refine h.stay ?_ ?_
          · cases h <;> simp [DirectCall.meet, DirectCall.answer]
          · cases h with
            | underWay hr _ _ | done hr =>
                simp [Lifecycle.meet, Lifecycle.step, Lifecycle.onRenewer, Lifecycle.renewer?, hr]

/-- The same of everything that can happen. -/
theorem Unlocking.of_lead (h : Unlocking start start' name d l) (es : List (Nat × CallEvent)) :
    Unlocking start start' name (CallEvent.lead DirectCall.meet start d es)
      (CallEvent.lead Lifecycle.meet start' l es) := by
  induction es using List.reverseRecOn with
  | nil => exact h
  | append_singleton es p ih =>
      rw [CallEvent.lead_concat, CallEvent.lead_concat]
      exact (ih.meet p.1 p.2).2

end

/-- The session holds the lock with the key, and has no renewer. -/
structure Session.HoldsAlone (s : Session) (policy : RetryPolicy) (name key : String) : Prop where
  policy : s.policy = policy
  owes : s.owesUnlock = true
  handle : ∃ x, s.handle = some x ∧ x.name = name ∧ x.secret = key
  alone : s.renewer = none

/-- Without a renewer, a release begins with its call. -/
theorem Session.HoldsAlone.release {s : Session} {policy : RetryPolicy} {name key : String}
    (h : s.HoldsAlone policy name key) (now : Nat) :
    (Lifecycle.owned s .resting).step now .release =
      { next := .owned s.beginRelease
          (.unlocking none (.start (unlockInvocation policy ⟨name, key⟩)))
        sent := some (.unlock ⟨name, key⟩) } := by
  obtain ⟨x, hx, rfl, rfl⟩ := h.handle
  have halone : s.beginRelease.renewer = none := by simp [Session.beginRelease, h.alone]
  have hstep : (Lifecycle.owned s .resting).step now .release = s.beginRelease.awaitRenewer :=
    Lifecycle.step_of_awaitsEnd (.first h.owes)
  have hsend : s.beginRelease.awaitRenewer = s.beginRelease.sendUnlock none := by
    simp only [Session.awaitRenewer, halone]
  rw [hstep, hsend, Lifecycle.sendUnlock_of_handle (t := s.beginRelease) hx, ← h.policy]
  rfl

/-! ## A fresh lease -/

/-- The service answers, and decides nothing against the request. -/
def Reply.IsPlain (reply : Reply LockResponse) : Prop :=
  ∃ response, reply = .response response ∧ response.error = none

/-- The renewer sends the request again as soon as it may go on from
the given time. -/
def Renewer.GoesOn (r : Renewer) (request : RefreshLockRequest) (due : Nat) : Prop :=
  ∀ later, due ≤ later → (r.wake later).sent = some (.refreshLock request)

/-- What a direct request for a fresh lease came to with the reply, and the
renewer to which it came at the given time. -/
structure EndsAlike (now : Nat) (request : RefreshLockRequest) (reply : Reply LockResponse)
    (o : Outcome LockResponse) (r : Renewer) : Prop where
  answered : ∀ response, o = .ok response → reply = .response response
  renewed : (∃ response, o = .ok response ∧ response.locked = true) ↔
    r.GoesOn request (now + r.pause)
  refused : (∃ response, o = .ok response ∧ response.locked = false) ↔
    r.stage = .ended (some .notLocked) ∧ reply.IsPlain
  failed : ∀ e, o = .error e ↔ r.stage = .ended (some e) ∧ ¬ reply.IsPlain
  crashed : ∀ text, o = .crash text ↔ r.stage = .crashed text

theorem Renewer.wake_sleeping {r : Renewer} {due now : Nat} (hc : r.cancelled = false)
    (hst : r.stage = .sleeping due) (hdue : due ≤ now) :
    r.wake now = r.attempt (.start r.invocation) := by
  simp [wake, hc, hst, hdue]

theorem not_goesOn {r : Renewer} (h : r.isAlive = false) (request : RefreshLockRequest)
    (due : Nat) : ¬ r.GoesOn request due := by
  intro hgoes
  have hsent := hgoes due (Nat.le_refl due)
  rw [Renewer.wake_over h] at hsent
  cases hsent

section

variable {r : Renewer} {request : RefreshLockRequest} {reply : Reply LockResponse} {now : Nat}

theorem endsAlike_of_error {e : ClientError} (hplain : ¬ reply.IsPlain) :
    EndsAlike now request reply (.error e) (r.finish (some e)).next where
  answered := by simp
  renewed := iff_of_false (by simp) (not_goesOn rfl _ _)
  refused := iff_of_false (by simp) fun h => hplain h.2
  failed e' := by simp [Renewer.finish, hplain]
  crashed text := by simp [Renewer.finish]

/-- A response without a decision renews the lease, or tells that the
lock is not locked. -/
theorem endsAlike_of_response {response : LockResponse} (hc : r.cancelled = false)
    (hd : response.error = none) :
    EndsAlike now r.request (.response response) (.ok response)
      (r.conclude now (.ok response)).next := by
  have hplain : Reply.IsPlain (.response response) := ⟨response, rfl, hd⟩
  cases hlocked : response.locked with
  | true =>
      have hnext : (r.conclude now (.ok response)).next =
          { r with counter := r.counter + 1 }.schedule now := by
        simp only [Renewer.conclude, hlocked, if_true]
      have hgoes : ({ r with counter := r.counter + 1 }.schedule now).GoesOn r.request
          (now + r.pause) := by
        intro later hlater
        have hwake := Renewer.wake_sleeping
          (r := { r with counter := r.counter + 1 }.schedule now) hc rfl hlater
        rw [hwake]
        rfl
      rw [hnext]
      exact ⟨by simp, by simp [hlocked]; exact hgoes, by simp [hlocked, Renewer.schedule],
        by simp [Renewer.schedule], by simp [Renewer.schedule]⟩
  | false =>
      have hnext : (r.conclude now (.ok response)).next = (r.finish (some .notLocked)).next := by
        simp [Renewer.conclude, hlocked]
      rw [hnext]
      exact ⟨by simp, iff_of_false (by simp [hlocked]) (not_goesOn rfl _ _),
        by simp [hlocked, hplain, Renewer.finish], by simp [hplain], by simp [Renewer.finish]⟩

/-- A final reply makes both end alike. -/
theorem endsAlike_of_reply (hc : r.cancelled = false) (now : Nat) (reply : Reply LockResponse) :
    EndsAlike now r.request reply reply.outcome (r.conclude now reply.outcome).next := by
  cases reply with
  | response response =>
      cases hd : response.error with
      | none =>
          have ho : Reply.outcome (.response response) = .ok response := by
            simp [Reply.outcome, decision, hd]
          rw [ho]
          exact endsAlike_of_response hc hd
      | some d =>
          have ho : Reply.outcome (.response response) = .error (.ofDecision d) := by
            simp [Reply.outcome, decision, hd]
          rw [ho]
          exact endsAlike_of_error (by simp [Reply.IsPlain, hd])
  | failure status => exact endsAlike_of_error (by simp [Reply.IsPlain])
  | crash text =>
      exact ⟨by simp [Reply.outcome], iff_of_false (by simp [Reply.outcome])
        (not_goesOn rfl _ _), by simp [Reply.outcome, Renewer.conclude, Step.stay],
        by simp [Reply.outcome, Renewer.conclude, Step.stay],
        by simp [Reply.outcome, Renewer.conclude, Step.stay]⟩

end

/-- The end of a renewal sends nothing, and another one does
not begin with it. -/
theorem Renewer.conclude_over (r : Renewer) (now : Nat) (outcome : Outcome LockResponse) :
    (r.conclude now outcome).sent = none ∧
      ∀ run, (r.conclude now outcome).next.stage ≠ .refreshing run := by
  cases outcome with
  | ok response => cases hl : response.locked <;> simp [conclude, hl, finish, schedule]
  | error e => simp [conclude, finish]
  | crash text => simp [conclude, Step.stay]

/-- `Renewing start start' r d r'`: the direct request for a fresh lease and
a renewal of `r` stand alike, each counted from its own beginning. -/
inductive Renewing (start start' : Nat) (r : Renewer) : DirectCall → Renewer → Prop
  | underWay {run run' : Run RefreshLockRequest} : Run.Beside start start' run run' →
      Renewing start start' r (.refresh run) (r.attempt run').next

/-- What a direct request for a fresh lease and a renewal do at the same
event: they send the same, and both are still under way or both end. -/
structure RenewAlike (now : Nat) (request : RefreshLockRequest) (ev : CallEvent)
    (s : Step DirectCall DirectResult) (s' : Step Renewer Unit) : Prop where
  sent : s'.sent = s.sent
  underWay : s.result = none ↔ ∃ run, s'.next.stage = .refreshing run
  ends : ∀ result, s.result = some result → ∃ reply, ev = .answer (.refreshed reply) ∧
    result = .refreshed reply.outcome ∧ EndsAlike now request reply reply.outcome s'.next

section

variable {start start' : Nat} {r r' : Renewer} {d : DirectCall}

/-- Both pause until equally long after their beginning. -/
theorem Renewing.dueAt (h : Renewing start start' r d r') (hc : r.cancelled = false) :
    ∃ due : Option Nat, d.dueAt = due.map (start + ·) ∧ r'.dueAt = due.map (start' + ·) := by
  cases h with
  | @underWay run run' hrun =>
      have hdue : (r.attempt run').next.dueAt = run'.resumeAt := by
        simp [Renewer.dueAt, Renewer.attempt, Renewer.isAlive, hc]
      rw [hdue]
      exact hrun.pause

/-- What makes neither do anything leaves both where they are. -/
theorem Renewing.stay (h : Renewing start start' r d r') (now : Nat) (ev : CallEvent)
    {s : Step DirectCall DirectResult} {s' : Step Renewer Unit} (hs : s = .stay d)
    (hs' : s' = .stay r') :
    RenewAlike now r.request ev s s' ∧
      (s.next ≠ .over → Renewing start start' r s.next s'.next) := by
  subst hs hs'
  refine ⟨⟨rfl, iff_of_true rfl ?_, by rintro result ⟨⟩⟩, fun _ => h⟩
  cases h with
  | @underWay run run' _ => exact ⟨run', rfl⟩

/-- A reply to the call ends both, or makes both pause. -/
theorem Renewing.answer (h : Renewing start start' r d r') (hc : r.cancelled = false) (t : Nat)
    (reply : Reply LockResponse) :
    RenewAlike (start' + t) r.request (.answer (.refreshed reply))
        (d.answer (start + t) (.refreshed reply)) (r'.answer (start' + t) reply) ∧
      ((d.answer (start + t) (.refreshed reply)).next ≠ .over →
        Renewing start start' r (d.answer (start + t) (.refreshed reply)).next
          (r'.answer (start' + t) reply).next) := by
  cases h with
  | @underWay run run' hrun =>
      cases hw : run.isWaiting with
      | false =>
          refine (Renewing.underWay hrun).stay _ _ ?_ ?_
          · simp [DirectCall.answer, DirectCall.isWaiting, hw]
          · simp [Renewer.attempt, Renewer.answer, hrun.isWaiting, hw]
      | true =>
          obtain ⟨log, ⟨hd, hr⟩ | ⟨next, next', hd, hr, hnext⟩⟩ := hrun.answer t reply
          · -- the reply is final
            have hdirect : (DirectCall.refresh run).answer (start + t) (.refreshed reply) =
                { next := .over, log, result := some (.refreshed reply.outcome) } := by
              simp [DirectCall.answer, DirectCall.isWaiting, hw, hd]
            have hrenewal : (r.attempt run').next.answer (start' + t) reply =
                ((r.attempt run').next.conclude (start' + t) reply.outcome).after log := by
              simp [Renewer.attempt, Renewer.answer, hrun.isWaiting, hw, hr, hc]
            rw [hdirect, hrenewal]
            obtain ⟨hsent, hstage⟩ :=
              Renewer.conclude_over (r.attempt run').next (start' + t) reply.outcome
            refine ⟨⟨hsent, iff_of_false (by simp) (by rintro ⟨x, hx⟩; exact hstage x hx), ?_⟩,
              fun hnext => absurd rfl hnext⟩
            rintro result ⟨⟩
            exact ⟨reply, rfl, rfl, endsAlike_of_reply (r := (r.attempt run').next) hc _ reply⟩
          · -- both pause
            have hdirect : (DirectCall.refresh run).answer (start + t) (.refreshed reply) =
                { next := .refresh next, log } := by
              simp [DirectCall.answer, DirectCall.isWaiting, hw, hd]
            have hrenewal : (r.attempt run').next.answer (start' + t) reply =
                { next := (r.attempt next').next, log } := by
              simp [Renewer.attempt, Renewer.answer, hrun.isWaiting, hw, hr, hc]
            rw [hdirect, hrenewal]
            exact ⟨⟨rfl, iff_of_true rfl ⟨next', rfl⟩, by rintro result ⟨⟩⟩,
              fun _ => .underWay hnext⟩

/-- When both may go on, both do, with the same request, or neither. -/
theorem Renewing.wake (h : Renewing start start' r d r') (hc : r.cancelled = false) (t : Nat) :
    RenewAlike (start' + t) r.request .wake (d.wake (start + t)) (r'.wake (start' + t)) ∧
      ((d.wake (start + t)).next ≠ .over →
        Renewing start start' r (d.wake (start + t)).next (r'.wake (start' + t)).next) := by
  cases h with
  | @underWay run run' hrun =>
      rcases hrun.resume? t with ⟨hd, hr⟩ | ⟨next, next', hd, hr, hnext⟩
      · refine (Renewing.underWay hrun).stay _ _ ?_ ?_
        · simp only [DirectCall.wake, hd]
        · simp [Renewer.wake, Renewer.attempt, hc, hr]
      · have hdirect : (DirectCall.refresh run).wake (start + t) =
            { next := .refresh next, sent := some (.refreshLock next.request) } := by
          simp only [DirectCall.wake, hd]
        have hrenewal : (r.attempt run').next.wake (start' + t) = r.attempt next' := by
          simp [Renewer.wake, Renewer.attempt, hc, hr]
        rw [hdirect, hrenewal]
        refine ⟨⟨?_, iff_of_true rfl ⟨next', rfl⟩, by rintro result ⟨⟩⟩, fun _ => .underWay hnext⟩
        simp [Renewer.attempt, hnext.request]

/-- Whatever happens to both, both do alike, and stay beside each other
until they end. -/
theorem Renewing.meet (h : Renewing start start' r d r') (hc : r.cancelled = false) (t : Nat)
    (ev : CallEvent) :
    RenewAlike (start' + t) r.request ev (d.meet (start + t) ev) (r'.meet (start' + t) ev) ∧
      ((d.meet (start + t) ev).next ≠ .over →
        Renewing start start' r (d.meet (start + t) ev).next (r'.meet (start' + t) ev).next) := by
  cases ev with
  | wake => exact h.wake hc t
  | answer a =>
      cases a with
      | refreshed reply => exact h.answer hc t reply
      | acquired reply | unlocked reply =>
          -- an answer to somebody else
          refine h.stay _ _ ?_ rfl
          cases h
          simp [DirectCall.meet, DirectCall.answer]

/-- The same of everything that can happen until the direct call is over. -/
theorem Renewing.of_lead (h : Renewing start start' r d r') (hc : r.cancelled = false)
    (es : List (Nat × CallEvent)) (hes : CallEvent.lead DirectCall.meet start d es ≠ .over) :
    Renewing start start' r (CallEvent.lead DirectCall.meet start d es)
      (CallEvent.lead Renewer.meet start' r' es) := by
  induction es using List.reverseRecOn with
  | nil => exact h
  | append_singleton es p ih =>
      rw [CallEvent.lead_concat] at hes
      rw [CallEvent.lead_concat, CallEvent.lead_concat]
      -- a call that is over stays so
      have hbefore : CallEvent.lead DirectCall.meet start d es ≠ .over := by
        intro hover
        rw [hover] at hes
        exact hes (by cases p.2 <;> rfl)
      exact ((ih hbefore).meet hc p.1 p.2).2 hes

end

/-- The renewer keeps the lease of the lock alive, and sleeps until
the given time. -/
structure Renewer.IsAsleep (r : Renewer) (policy : RetryPolicy) (name key : String)
    (lease : UInt32) (due : Nat) : Prop where
  policy : r.policy = policy
  name : r.name = name
  key : r.key = key
  lease : r.lease = lease
  wanted : r.cancelled = false
  stage : r.stage = .sleeping due

open CallEvent in
/-- A direct return of a lock does what the release of a session does that
holds the lock without a renewer, and a direct request for a fresh lease
does what one renewal of a renewer does, whenever each begins and whatever
happens equally long after that. -/
theorem direct_calls_agree {c : Client} {name key : String} (hname : name ≠ "") (hkey : key ≠ "")
    (start start' : Nat) :
    (∀ s : Session, s.HoldsAlone c.policy name key →
      let call := c.unlock name key
      let release := (Lifecycle.owned s .resting).step start' .release
      call.sent = some (.unlock ⟨name, key⟩) ∧ call.result = none ∧
      ActAlike (ReturnsAlike name) call release ∧
      ∀ es,
        let d := lead DirectCall.meet start call.next es
        let l := lead Lifecycle.meet start' release.next es
        (∃ due : Option Nat,
          d.dueAt = due.map (start + ·) ∧ l.dueAt .holder = due.map (start' + ·)) ∧
        ∀ t ev, ActAlike (ReturnsAlike name) (d.meet (start + t) ev) (l.meet (start' + t) ev)) ∧
    (∀ (lease : UInt32) (r : Renewer) (due : Nat), r.IsAsleep c.policy name key lease due →
      due ≤ start' →
      let request : RefreshLockRequest := .ofSeconds name key lease
      let call := c.refreshLock name key lease
      let renewal := r.wake start'
      call.sent = some (.refreshLock request) ∧ call.result = none ∧
      renewal.sent = some (.refreshLock request) ∧
      ∀ es, lead DirectCall.meet start call.next es ≠ .over →
        let d := lead DirectCall.meet start call.next es
        let r' := lead Renewer.meet start' renewal.next es
        (∃ due : Option Nat,
          d.dueAt = due.map (start + ·) ∧ r'.dueAt = due.map (start' + ·)) ∧
        ∀ t ev, RenewAlike (start' + t) request ev (d.meet (start + t) ev)
          (r'.meet (start' + t) ev)) := by
  have hvalid : ¬ (name = "" ∨ key = "") := by simp [hname, hkey]
  refine ⟨fun s hs => ?_, fun lease r due hr hdue => ?_⟩
  · have hcall : c.unlock name key =
        { next := .unlock (.start (unlockInvocation c.policy ⟨name, key⟩))
          sent := some (.unlock ⟨name, key⟩) } := by
      simp only [Client.unlock, if_neg hvalid]
    rw [hcall, hs.release]
    have hbegin : Unlocking start start' name
        (.unlock (.start (unlockInvocation c.policy ⟨name, key⟩)))
        (.owned s.beginRelease
          (.unlocking none (.start (unlockInvocation c.policy ⟨name, key⟩)))) :=
      .underWay (by simp [Session.beginRelease, hs.alone]) (.begins ..) rfl
    refine ⟨rfl, rfl, ⟨rfl, .none⟩, fun es => ?_⟩
    have hes := hbegin.of_lead es
    exact ⟨hes.dueAt, fun t ev => (hes.meet t ev).1⟩
  · obtain ⟨hpolicy, rfl, rfl, rfl, hc, hstage⟩ := hr
    have hcall : c.refreshLock r.name r.key r.lease =
        { next := .refresh (.start r.invocation), sent := some (.refreshLock r.request) } := by
      simp only [Client.refreshLock, if_neg hvalid, Renewer.invocation, hpolicy]
      rfl
    rw [hcall, Renewer.wake_sleeping hc hstage hdue]
    have hbegin : Renewing start start' r (.refresh (.start r.invocation))
        (r.attempt (.start r.invocation)).next := .underWay (.begins ..)
    refine ⟨rfl, rfl, rfl, fun es hes => ?_⟩
    have halike := hbegin.of_lead hc es hes
    exact ⟨halike.dueAt hc, fun t ev => (halike.meet hc t ev).1⟩

/-- A session that holds a lock without a lease. -/
def leaseless : Session where
  policy := ⟨1000, 2⟩
  state := .held
  handle := some (.held "job-42" "key-1" 5)

/-- A renewer of the same lock in its first sleep. -/
def firstSleep : Renewer where
  policy := ⟨1000, 2⟩
  name := "job-42"
  key := "key-1"
  lease := 60
  stage := .sleeping 30000

/-- No answer to the first attempt, and time for the second. -/
def missed (noAnswer : Answer) : List (Nat × CallEvent) := [(5, .answer noAnswer), (1005, .wake)]

open CallEvent in
/-- What comes of the second attempt. A session is released two minutes
after it took its lock, and a renewer goes on from its sleep; the service
takes the lock back, and does not renew its lease. -/
theorem direct_calls_agree_second_attempt :
    (Client.session { policy := ⟨1000, 2⟩ }).after [(0, .acquire ⟨false, "job-42", {}⟩),
      (5, .answer (.acquired (.response (.granted "job-42" "key-1"))))] =
        .owned leaseless .resting ∧
    ((lead Lifecycle.meet 120000 ((Lifecycle.owned leaseless .resting).step 120000 .release).next
        (missed (.unlocked (.failure { code := .unavailable })))).meet (120000 + 1010)
        (.answer (.unlocked (.response { unlocked := true, name := "job-42" })))).result =
      some (.released (.ok ())) ∧
    ((lead Renewer.meet 120000 (firstSleep.wake 120000).next
        (missed (.refreshed (.failure { code := .unavailable })))).meet (120000 + 1010)
        (.answer (.refreshed (.response (.refused "job-42"))))).next.stage =
      .ended (some .notLocked) := by
  obtain ⟨hunlock, hrefresh⟩ := direct_calls_agree (c := { policy := ⟨1000, 2⟩ })
    (show "job-42" ≠ "" by decide) (show "key-1" ≠ "" by decide) 0 120000
  refine ⟨rfl, ?_, ?_⟩
  · obtain ⟨-, -, -, hrun⟩ := hunlock leaseless ⟨rfl, rfl, ⟨_, rfl, rfl, rfl⟩, rfl⟩
    have hresult := ((hrun (missed (.unlocked (.failure { code := .unavailable })))).2 1010
      (.answer (.unlocked (.response { unlocked := true, name := "job-42" })))).result
    obtain ⟨o, hreleased, hsays⟩ := exists_released hresult rfl
    rw [hreleased, hsays.taken.1 rfl]
  · obtain ⟨-, -, -, hrun⟩ :=
      hrefresh 60 firstSleep 30000 ⟨rfl, rfl, rfl, rfl, rfl, rfl⟩ (by decide)
    have halike := (hrun (missed (.refreshed (.failure { code := .unavailable }))) (by decide)).2
      1010 (.answer (.refreshed (.response (.refused "job-42"))))
    obtain ⟨reply, hreply, -, hends⟩ := halike.ends _ rfl
    obtain ⟨⟩ := hreply
    exact (hends.refused.1 ⟨_, rfl, rfl⟩).1

end DistLock
