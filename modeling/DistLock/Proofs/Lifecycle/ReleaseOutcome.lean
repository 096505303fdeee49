import DistLock.Proofs.Lifecycle.Accounting
import DistLock.Proofs.Lifecycle.RenewalFailure
import DistLock.Proofs.Lifecycle.Transitions
import DistLock.Proofs.Renewal.Ending

/-!
# What a release returns

What the first release of a lock returns is up to two things: how the renewal
of its lease had ended, and the last reply to the call that gives it back.

* While the release waits for the renewer and while its call is under way,
  the error of the renewal stays known, and the call begins once
  (`Releasing`, `releasing_of_run`).
* A release that returns does so on the final reply to that call
  (`Releasing.concludes`), and `ReleaseReport` says what it returns then.
* The error of a renewal says that there was no answer, or that the answer
  was no, wherever a run leads (`isRemote_of_run`).
-/

namespace DistLock

namespace Moment

/-- The owner begins to give its lock back. -/
def beginsRelease (m : Moment) : Bool :=
  match m.before, m.event with
  | .owned s .resting, .release => s.owesUnlock
  | _, _ => false

/-- A release that is under way goes on: its owner waits for it, and has
learned nothing yet. -/
def keepsRelease (m : Moment) : Bool :=
  match m.event with
  | .abandon | .drop _ => false
  | _ => m.result.isNone

end Moment

/-- The error with which the renewal of the lease ended by itself. -/
def Session.renewalError? (s : Session) : Option ClientError := s.renewer.bind (·.error?)

@[simp] theorem Session.beginRelease_renewalError? (s : Session) :
    s.beginRelease.renewalError? = s.renewalError? := by
  cases hr : s.renewer <;> simp [renewalError?, beginRelease, hr]

/-- The decision that a response holds against the request. -/
def Reply.decision? {ρ : Type} [HasDecision ρ] : Reply ρ → Option RpcError
  | .response r => decision r
  | .failure _ | .crash _ => none

/-- The service takes the lock back: it holds no decision against
it, and says so. -/
def Reply.IsAccepted (reply : Reply UnlockResponse) : Prop :=
  ∃ r, reply = .response r ∧ r.error = none ∧ r.unlocked = true

/-- What a release returns when the renewal of the lease had ended with
`renewal` and the call that gives the lock back ends with `reply`. -/
structure ReleaseReport (name : String) (renewal : Option ClientError)
    (reply : Reply UnlockResponse) (o : Outcome Unit) : Prop where
  ok : o = .ok () ↔ reply.IsAccepted ∧ renewal = none
  renewalFailed : ∀ e, o = .error (.renewalFailed name e) ↔ reply.IsAccepted ∧ renewal = some e
  refused : o = .error (.releaseFailed name "server reported unlocked=false") ↔
    ∃ r, reply = .response r ∧ r.error = none ∧ r.unlocked = false
  /-- Whatever the response says beside it, a decision against the return is
  what is reported. -/
  decided : ∀ reason, (o = .error (.releaseFailed name reason) ∧
      reason ≠ "server reported unlocked=false") ↔
    ∃ d, reply.decision? = some d ∧ (ClientError.ofDecision d).message = reason
  unanswered : ∀ status, o = .error (.unanswered status) ↔ reply = .failure status
  not_decision : ∀ e, o = .error e → e.isServerDecision = false

/-- No decision of the service reads like a response that leaves
the lock as it is. -/
theorem ClientError.message_ne_of_isServerDecision {e : ClientError}
    (h : e.isServerDecision = true) : e.message ≠ "server reported unlocked=false" := by
  cases e with
  | server code text =>
      intro heq
      have htext : ("server returned error: code=" ++ toString code.toInt ++ ", message="
        ++ text).toList = "server reported unlocked=false".toList := congrArg String.toList heq
      simp only [String.toList_append] at htext
      simp at htext
  | lockDoesNotExist | invalidLockKey | lockWaitTimeout | notLocked
  | lockDoesNotExistOrInvalidKey | lockSizeMismatch | invalidLockSize => decide
  | _ => cases h

/-- What a release returns fits the reply that ended its call. -/
theorem releaseReport_of_conclude {s : Session} {name : String} {renewal : Option ClientError}
    {reply : Reply UnlockResponse} {o : Outcome Unit} (hreply : ∀ text, reply ≠ .crash text)
    (h : (s.concludeRelease name renewal reply.outcome).result = some o) :
    ReleaseReport name renewal reply o := by
  cases reply with
  | crash text => exact absurd rfl (hreply text)
  | failure status =>
      obtain rfl : Outcome.error (.unanswered status) = o := Option.some.inj h
      exact ⟨by simp [Reply.IsAccepted], by simp [Reply.IsAccepted], by simp,
        by simp [Reply.decision?], by simp, by rintro e ⟨⟩; rfl⟩
  | response r =>
      have hembedded : Reply.decision? (.response r) = r.error := rfl
      cases hd : r.error with
      | some d =>
          have hdecision := ClientError.ofDecision_isServerDecision d
          have hmessage := ClientError.message_ne_of_isServerDecision hdecision
          have ho : Reply.outcome (.response r) = .error (ClientError.ofDecision d) := by
            simp [Reply.outcome, decision, hd]
          simp only [ho, Session.concludeRelease, hdecision, if_true, Option.some.injEq] at h
          subst h
          refine ⟨by simp [Reply.IsAccepted, hd], by simp [Reply.IsAccepted, hd],
            by simp [hd, hmessage], fun reason => ?_, by simp, by rintro e ⟨⟩; rfl⟩
          rw [hembedded, hd]
          constructor
          · rintro ⟨⟨⟩, -⟩
            exact ⟨d, rfl, rfl⟩
          · rintro ⟨d', ⟨⟩, rfl⟩
            exact ⟨rfl, hmessage⟩
      | none =>
          have ho : Reply.outcome (.response r) = .ok r := by
            simp [Reply.outcome, decision, hd]
          cases hu : r.unlocked with
          | false =>
              simp only [ho, Session.concludeRelease, hu] at h
              obtain rfl := Option.some.inj h
              exact ⟨by simp [Reply.IsAccepted, hu], by simp [Reply.IsAccepted, hu],
                by simp [hd, hu], by simp [hembedded, hd], by simp, by rintro e ⟨⟩; rfl⟩
          | true =>
              simp only [ho, Session.concludeRelease, hu, if_true, Option.some.injEq] at h
              subst h
              cases renewal with
              | none =>
                  exact ⟨by simp [Reply.IsAccepted, hd, hu], by simp, by simp [hu],
                    by simp [hembedded, hd], by simp, by simp⟩
              | some error =>
                  exact ⟨by simp, by simp [Reply.IsAccepted, hd, hu], by simp [hu],
                    by simp [hembedded, hd], by simp, by rintro e ⟨⟩; rfl⟩

namespace Lifecycle

variable {now : Nat} {autoRefresh : Bool} {g : Option Grant} {grant : Grant} {l : Lifecycle}
  {ev : Event} {s t : Session} {activity : Activity} {renewal : Option ClientError} {n : Nat}
  {step : Step Lifecycle OwnerResult}

/-! ## Before the release -/

/-- A session is being released only after a release has begun. -/
theorem beginsRelease_of_move (hc : Consistent autoRefresh g l) (hm : Move now l ev step)
    (hl : ∀ s activity, l = .owned s activity → s.state ≠ .releasing)
    (hn : step.next = .owned t activity) (ht : t.state = .releasing) :
    Moment.beginsRelease ⟨now, ev, l⟩ = true := by
  cases hm with
  | releaseWaits ha _ _ | releaseBreaks ha _ _ | releaseUnlocks ha _ _ | releaseLost ha _ =>
      cases ha with
      | first ho => exact ho
      | again => exact absurd hc.activity_fits (hl _ _ rfl)
  | stay _ => exact absurd ht (hl _ _ hn)
  | renewerWakes _ | renewerAnswered _ _ =>
      obtain ⟨s, hs, hst⟩ := state_of_setRenewer hn
      exact absurd (hst.symm.trans ht) (hl _ _ hs)
  | acquireRefused _ | acquireRetried _ | acquirePaused _ _ | acquireCrashed _ | releaseIdle _
  | unlockRetried _ | unlockPaused _ _ | unlockCrashed _ | abandoned =>
      obtain ⟨rfl, -⟩ := Lifecycle.owned.inj hn
      exact absurd ht (hl _ _ rfl)
  | acquireBegun _ | granted _ _ | notGranted _ _ _ _ | released _ _ _ =>
      obtain ⟨rfl, -⟩ := Lifecycle.owned.inj hn
      simp [Session.refuse, Session.markReleased] at ht
  | _ => exact absurd hn (by simp [Step.stay])

/-- A lock that is owed before any release has begun is held. -/
theorem held_of_run (policy : RetryPolicy) (autoRefresh : Bool) (es : List (Nat × Event))
    (hfirst : ∀ x ∈ (new policy autoRefresh).moments es, x.beginsRelease = false)
    (hl : (new policy autoRefresh).after es = .owned s activity) (ho : s.owesUnlock = true) :
    s.state = .held := by
  have hstate := run_induction (l := new policy autoRefresh)
    (P := fun ms l => (∀ x ∈ ms, x.beginsRelease = false) →
      ∀ s activity, l = .owned s activity → s.state ≠ .releasing)
    (by rintro - s activity ⟨⟩; simp) ?_ es hfirst s activity hl
  · have hc := consistent_run policy autoRefresh es
    rw [hl] at hc
    exact (hc.shows_of_owes ho).1.resolve_right hstate
  · intro es now ev ih hms s activity hn ht
    have hbegins := beginsRelease_of_move (consistent_run policy autoRefresh es)
      (step_move _ now ev) (ih fun x hx => hms x (List.mem_append_left _ hx)) hn ht
    exact absurd hbegins (by simp [hms _ (List.mem_append_right _ (List.mem_singleton_self _))])

/-! ## The error of the renewal -/

/-- Looking for the end of the renewer leaves its error as it is. -/
theorem renewalError?_of_awaitsEnd (ha : AwaitsEnd s activity ev t) :
    t.renewalError? = s.renewalError? := by
  cases ha with
  | first _ => exact s.beginRelease_renewalError?
  | again => rfl

theorem owned_of_setRenewer {r : Renewer} (h : l.setRenewer r = .owned t activity) :
    ∃ s, l = .owned s activity ∧ t.renewalError? = r.error? ∧
      s.renewalError? = l.renewer?.bind (·.error?) := by
  cases l with
  | owned s activity' =>
      obtain ⟨rfl, rfl⟩ := Lifecycle.owned.inj h
      exact ⟨s, rfl, rfl, rfl⟩
  | _ => exact absurd h (by simp [setRenewer])

/-- What a move leaves of the error of a renewal is what there was, or what
the service said. -/
theorem isRemote_of_move (hc : Consistent autoRefresh g l) (hm : Move now l ev step)
    (hl : ∀ s activity, l = .owned s activity → ∀ e, s.renewalError? = some e → e.IsRemote)
    (hn : step.next = .owned t activity) {e : ClientError} (he : t.renewalError? = some e) :
    e.IsRemote := by
  cases hm with
  | stay _ => exact hl _ _ hn e he
  | renewerWakes hr =>
      obtain ⟨s, rfl, ht, hs⟩ := owned_of_setRenewer hn
      refine hl s _ rfl e ?_
      rwa [hs, hr, Option.bind_some, ← Renewer.error?_wake, ← ht]
  | renewerAnswered reply hr =>
      obtain ⟨s, rfl, ht, hs⟩ := owned_of_setRenewer hn
      rcases Renewer.error?_of_answer (ht ▸ he) with hold | hreply
      · exact hl s _ rfl e (by rwa [hs, hr])
      · exact Reply.isRemote_of_renewalError? hreply
  | @granted s a run reply key log _ _ =>
      -- the renewer of a lock that was just granted is new
      obtain ⟨rfl, -⟩ := Lifecycle.owned.inj hn
      have hs := hc.fits
      simp only [Session.Fits, hc.activity_fits.1] at hs
      rw [Session.renewalError?, Session.grant_renewer, hs.2.1] at he
      split at he <;> cases he
  | releaseWaits ha _ _ =>
      obtain ⟨rfl, -⟩ := Lifecycle.owned.inj hn
      exact hl _ _ rfl e (renewalError?_of_awaitsEnd ha ▸ he)
  | releaseBreaks ha hr _ =>
      obtain ⟨rfl, -⟩ := Lifecycle.owned.inj hn
      refine hl _ _ rfl e ?_
      rw [← renewalError?_of_awaitsEnd ha, Session.renewalError?, hr]
      exact he
  | releaseUnlocks _ _ _ | releaseLost _ _ =>
      obtain ⟨rfl, -⟩ := Lifecycle.owned.inj hn
      cases he
  | acquireRefused _ | acquireBegun _ | acquireRetried _ | acquirePaused _ _
  | notGranted _ _ _ _ | acquireCrashed _ | releaseIdle _ | unlockRetried _ | unlockPaused _ _
  | released _ _ _ | unlockCrashed _ | abandoned =>
      obtain ⟨rfl, -⟩ := Lifecycle.owned.inj hn
      exact hl _ _ rfl e he
  | _ => exact absurd hn (by simp [Step.stay])

/-- The error of a renewal says that there was no answer, or that
the answer was no. -/
theorem isRemote_of_run (policy : RetryPolicy) (autoRefresh : Bool) (es : List (Nat × Event))
    (hl : (new policy autoRefresh).after es = .owned s activity) {e : ClientError}
    (he : s.renewalError? = some e) : e.IsRemote := by
  refine run_induction (l := new policy autoRefresh) (P := fun _ l => ∀ s activity,
    l = .owned s activity → ∀ e, s.renewalError? = some e → e.IsRemote) ?_ ?_ es s activity hl e he
  · rintro s activity ⟨⟩ e ⟨⟩
  · intro es now ev ih s activity hn e he
    exact isRemote_of_move (consistent_run policy autoRefresh es) (step_move _ now ev) ih hn he

/-! ## While the release goes on -/

/-- `Releasing renewal n l`: the first release of a lock is under way, the
renewal had ended with `renewal` before it, and `n` calls that give the lock
back have begun. -/
inductive Releasing (renewal : Option ClientError) : Nat → Lifecycle → Prop
  | stopping {t : Session} : t.renewalError? = renewal → RenewalCancelled t.renewer →
      (∀ r, t.renewer = some r → r.joined = false) → Releasing renewal 0 (.owned t .stopping)
  | unlocking {t : Session} {run : Run UnlockRequest} :
      Releasing renewal 1 (.owned t (.unlocking renewal run))

theorem sendUnlock_of_handle {x : LockHandle} (hx : t.handle = some x)
    (renewal : Option ClientError) : t.sendUnlock renewal =
      { next := .owned t (.unlocking renewal (t.unlockRun x))
        sent := some (.unlock ⟨x.name, x.secret⟩) } := by
  simp only [Session.sendUnlock, hx, Session.unlockRun]

theorem awaitRenewer_of_ended {r : Renewer} {error : Option ClientError} (hr : t.renewer = some r)
    (hjoin : r.join.result = some (error.elim (.ok ()) .error)) :
    t.awaitRenewer = (t.forgetRenewer.sendUnlock error).after r.join.log := by
  cases error <;> simp only [Session.awaitRenewer, hr, hjoin, Option.elim, Session.forgetRenewer]

/-- Looking for the end of the renewer breaks down, or goes on with the
error that it has left. -/
theorem releasing_of_awaitRenewer {x : LockHandle} (hx : t.handle = some x)
    (hc : RenewalCancelled t.renewer) (hj : ∀ r, t.renewer = some r → r.joined = false) :
    (∃ text, t.awaitRenewer.result = some (.released (.crash text))) ∨
      (t.awaitRenewer.result = none ∧
        Releasing t.renewalError? (t.awaitRenewer.sent.any (·.operation == .unlock)).toNat
          t.awaitRenewer.next) := by
  cases hr : t.renewer with
  | none =>
      have hnone : t.renewalError? = none := by simp [Session.renewalError?, hr]
      have hsend : t.awaitRenewer = t.sendUnlock none := by simp only [Session.awaitRenewer, hr]
      rw [hsend, sendUnlock_of_handle hx, hnone]
      exact .inr ⟨rfl, .unlocking⟩
  | some r =>
      have hopen := hj r hr
      cases hst : r.stage with
      | ended error =>
          have hended : t.renewalError? = error := by
            simp [Session.renewalError?, hr, Renewer.error?, hst]
          rw [awaitRenewer_of_ended hr (Renewer.join_ended hst hopen), hended,
            sendUnlock_of_handle (t := t.forgetRenewer) hx]
          exact .inr ⟨rfl, .unlocking⟩
      | crashed text =>
          left
          exact ⟨text, by simp [Session.awaitRenewer, hr, Renewer.join, hopen, hst]⟩
      | ready | sleeping due | refreshing run =>
          have hstay : r.join = .stay r := by simp [Renewer.join, hopen, hst]
          have hwaits : t.awaitRenewer = .stay (.owned t .stopping) := by
            simp only [Session.awaitRenewer, hr, hstay, Step.stay]
          rw [hwaits]
          exact .inr ⟨rfl, .stopping rfl hc hj⟩

/-- The release begins. -/
theorem releasing_of_release (now : Nat)
    (hc : Consistent autoRefresh (some grant) (.owned s .resting))
    (hst : s.state = .held) (hj : IsUnjoined (.owned s .resting)) :
    (∃ text, Moment.result ⟨now, .release, .owned s .resting⟩ =
        some (.released (.crash text))) ∨
      (Moment.result ⟨now, .release, .owned s .resting⟩ = none ∧
        Releasing s.renewalError? (Moment.beginsUnlock ⟨now, .release, .owned s .resting⟩).toNat
          (Moment.after ⟨now, .release, .owned s .resting⟩)) := by
  have ho : s.owesUnlock = true := by rw [hc.owesUnlock_eq, hst]; rfl
  have hstep : (Lifecycle.owned s .resting).step now .release = s.beginRelease.awaitRenewer :=
    step_of_awaitsEnd (.first ho)
  obtain ⟨x, hx⟩ := Option.ne_none_iff_exists'.1 (hc.handle_ne_none (.first ho))
  have hopen : ∀ r, s.beginRelease.renewer = some r → r.joined = false := by
    intro r hr
    obtain ⟨r₀, hr₀, rfl⟩ := Option.map_eq_some_iff.1 hr
    exact hj hst r₀ hr₀
  have hgoes := releasing_of_awaitRenewer hx (renewalCancelled_map _) hopen
  rw [Session.beginRelease_renewalError?, ← hstep] at hgoes
  simpa [Moment.result, Moment.beginsUnlock, Moment.sends, Moment.sent, Moment.after, Moment.step,
    isUnlocking] using hgoes

/-- What the renewer does on its own leaves the release where it is, and its
error as it was. -/
theorem Releasing.setRenewer {r r' : Renewer} (h : Releasing renewal n l) (hr : l.renewer? = some r)
    (herror : r.cancelled = true → r'.error? = r.error?) (hc : r'.cancelled = r.cancelled)
    (hj : r'.joined = r.joined) : Releasing renewal n (l.setRenewer r') := by
  cases h with
  | @stopping t hrenewal hcancel hopen =>
      have hcancelled := hcancel r hr
      refine .stopping ?_ ?_ ?_
      · have hrenewer : t.renewer = some r := hr
        rw [← hrenewal, Session.renewalError?, Session.renewalError?, hrenewer]
        exact herror hcancelled
      · rintro x ⟨⟩
        exact hc.trans hcancelled
      · rintro x ⟨⟩
        exact hj.trans (hopen r hr)
  | unlocking => exact .unlocking

/-- A release that goes on keeps the error of the renewal, and
begins its call once. -/
theorem Releasing.next (hc : Consistent autoRefresh g l) (h : Releasing renewal n l)
    (hkeep : Moment.keepsRelease ⟨now, ev, l⟩ = true) :
    Releasing renewal (n + (Moment.beginsUnlock ⟨now, ev, l⟩).toNat) (l.step now ev).next := by
  have hm := step_move l now ev
  have hbegins : Moment.beginsUnlock ⟨now, ev, l⟩ =
      ((l.step now ev).sent.any (·.operation == .unlock) && !l.isUnlocking) := rfl
  have hresult : Moment.result ⟨now, ev, l⟩ = (l.step now ev).result := rfl
  rw [hbegins]
  generalize hstep : l.step now ev = step at hm hresult ⊢
  cases hm with
  | stay _ => simpa [Step.stay] using h
  | @renewerWakes l r hr =>
      -- what a renewer sends gives nothing back
      have hq : (r.wake now).sent.any (·.operation == .unlock) = false := by
        cases hsent : (r.wake now).sent with
        | none => rfl
        | some q => simp [(Renewer.wake_sent hsent).2]
      simpa [Step.silent, Step.lift, hq] using h.setRenewer hr (fun _ => Renewer.error?_wake)
        Renewer.wake_flags.1 Renewer.wake_flags.2
  | renewerAnswered reply hr =>
      simpa [Step.silent, Step.lift, Renewer.answer_sent] using h.setRenewer hr
        Renewer.error?_answer_cancelled Renewer.answer_flags.1 Renewer.answer_flags.2
  | releaseWaits ha _ _ | releaseBreaks ha _ _ | releaseUnlocks ha _ _ | releaseLost ha _ =>
      rw [step_of_awaitsEnd ha] at hstep
      rw [← hstep] at hresult ⊢
      obtain ⟨x, hx⟩ := Option.ne_none_iff_exists'.1 (hc.handle_ne_none ha)
      cases ha with
      | first _ => cases h
      | again =>
          cases h with
          | stopping hrenewal hcancel hopen =>
              rcases releasing_of_awaitRenewer hx hcancel hopen with ⟨text, hcrash⟩ | ⟨-, hnext⟩
              · simp [Moment.keepsRelease, hresult, hcrash] at hkeep
              · simpa [isUnlocking, hrenewal] using hnext
  | unlockRetried _ | unlockPaused _ _ =>
      cases h
      simpa [isUnlocking] using .unlocking
  | released _ _ _ | unlockCrashed _ => simp [Moment.keepsRelease, hresult] at hkeep
  | abandoned | handedOver _ _ | letGo _ => simp [Moment.keepsRelease] at hkeep
  | _ => cases h

/-- As long as it goes on, a release keeps the error of the renewal and
begins its call once. -/
theorem releasing_of_run (hc : Consistent autoRefresh (some grant) l) (h : Releasing renewal n l)
    (es : List (Nat × Event)) (hkeep : ∀ x ∈ l.moments es, x.keepsRelease = true) :
    Consistent autoRefresh (some grant) (l.after es) ∧
      Releasing renewal (n + (l.moments es).countP Moment.beginsUnlock) (l.after es) := by
  refine run_induction (P := fun ms l' => (∀ x ∈ ms, x.keepsRelease = true) →
    Consistent autoRefresh (some grant) l' ∧
      Releasing renewal (n + ms.countP Moment.beginsUnlock) l') (fun _ => ⟨hc, h⟩) ?_ es hkeep
  intro es now ev ih hms
  obtain ⟨hc, h⟩ := ih fun x hx => hms x (List.mem_append_left _ hx)
  have hkeep := hms _ (List.mem_append_right _ (List.mem_singleton_self _))
  rw [countP_concat, ← Nat.add_assoc]
  exact ⟨consistent_keep hc (step_move _ _ _) hc.grant?_of_granted, h.next hc hkeep⟩

/-! ## The end of the release -/

/-- A release returns on the final reply to its call. -/
theorem Releasing.concludes {m : Moment} {o : Outcome Unit}
    (hc : Consistent autoRefresh (some grant) m.before) (h : Releasing renewal n m.before)
    (ho : m.result = some (.released o)) (hreturns : ∀ text, o ≠ .crash text) :
    n = 1 ∧ m.beginsUnlock = false ∧ m.endsUnlock = true ∧
      ∃ s reply, m.event = .answer (.unlocked reply) ∧ m.after = .owned s .resting ∧
        s.state = .released ∧ ReleaseReport grant.name renewal reply o := by
  obtain ⟨now, ev, l⟩ := m
  have hm := step_move l now ev
  have hresult : Moment.result ⟨now, ev, l⟩ = (l.step now ev).result := rfl
  have hafter : Moment.after ⟨now, ev, l⟩ = (l.step now ev).next := rfl
  rw [hresult] at ho
  rw [Moment.endsUnlock, hafter]
  generalize l.step now ev = step at hm ho ⊢
  cases hm with
  | @released s _ run reply _ outcome hw hreply hres =>
      cases h
      obtain ⟨hst, -, x, hx, hreq⟩ := hc.activity_fits
      obtain ⟨grant', hg, hrequest⟩ := hc.unlockRequest hst hx
      obtain rfl := Option.some.inj hg
      have hname : run.request.name = grant.name := by
        rw [hreq, hrequest]
        rfl
      obtain rfl : outcome = o := by simpa using ho
      refine ⟨rfl, by simp [Moment.beginsUnlock, isUnlocking], rfl, s.markReleased, reply, rfl, rfl,
        rfl, ?_⟩
      exact releaseReport_of_conclude hreply (hname ▸ hres)
  | unlockCrashed _ | releaseBreaks _ _ _ =>
      obtain rfl : Outcome.crash _ = o := by simpa using ho
      exact absurd rfl (hreturns _)
  | releaseLost ha hx => exact absurd hx (hc.handle_ne_none ha)
  | releaseIdle _ => cases h
  | _ => exact absurd ho (by simp [Step.stay, Step.silent])

/-- A release of a lock that was given back does nothing. -/
theorem release_of_released (hst : s.state = .released) (now : Nat) :
    (Lifecycle.owned s .resting).step now .release =
      { next := .owned s .resting, result := some (.released (.ok ())) } := by
  have howes : s.owesUnlock = false := Session.owesUnlock_eq_false (by simp [hst]) (by simp [hst])
  simp [Lifecycle.step, Session.startRelease, howes]

/-! ## The whole -/

/-- **The outcome of a release.** When the first release of a lock that is
owed returns, one call that gives the lock back has begun and ended, and
what is returned follows from the last reply to it and from how the renewal
of the lease had ended: nothing if the service took the lock back and the
renewal left no error, and otherwise which of these failed, never a
decision of the service as such. Then the session is released, and another
release does nothing. -/
theorem release_outcome (policy : RetryPolicy) (autoRefresh : Bool) (es es' : List (Nat × Event))
    (s : Session) (now : Nat) (hl : (new policy autoRefresh).after es = .owned s .resting)
    (ho : s.owesUnlock = true)
    (hfirst : ∀ x ∈ (new policy autoRefresh).moments es, x.beginsRelease = false)
    (ms ms' : List Moment) (m : Moment) (o : Outcome Unit)
    (hsplit : (Lifecycle.owned s .resting).moments ((now, .release) :: es') = ms ++ m :: ms')
    (hkeep : ∀ x ∈ ms, x.keepsRelease = true) (hresult : m.result = some (.released o))
    (hreturns : ∀ text, o ≠ .crash text) :
    ∃ grant reply, granted ((new policy autoRefresh).moments es) = some grant ∧
      (ms ++ [m]).countP Moment.beginsUnlock = 1 ∧
      m.event = .answer (.unlocked reply) ∧ m.endsUnlock = true ∧
      ReleaseReport grant.name s.renewalError? reply o ∧
      (∀ e, s.renewalError? = some e →
        (∃ status, e = .unanswered status) ∨ e.isServerDecision = true) ∧
      ∃ s', m.after = .owned s' .resting ∧ s'.state = .released ∧ s'.isLocked = false ∧
        s'.handle.bind (·.key?) = none ∧ s'.renewer = none ∧
        ∀ later, (Lifecycle.owned s' .resting).step later .release =
          { next := .owned s' .resting, result := some (.released (.ok ())) } := by
  have hc := consistent_run policy autoRefresh es
  have hunjoined := isUnjoined_of_run policy autoRefresh es
  rw [hl] at hc hunjoined
  have hst : s.state = .held := held_of_run policy autoRefresh es hfirst hl ho
  obtain ⟨-, grant, x, hg, hx, -⟩ := hc.shows_of_owes ho
  rw [hg] at hc
  have hbegun := releasing_of_release now hc hst hunjoined
  cases ms with
  | nil =>
      -- the release cannot return at once
      obtain ⟨rfl, -⟩ := List.cons.inj hsplit
      rcases hbegun with ⟨text, hcrash⟩ | ⟨hnone, -⟩
      · rw [hcrash] at hresult
        exact absurd (OwnerResult.released.inj (Option.some.inj hresult)).symm (hreturns text)
      · exact absurd (hnone.symm.trans hresult) (by simp)
  | cons x ms =>
      obtain ⟨rfl, hrest⟩ := List.cons.inj hsplit
      have hopen : Moment.result ⟨now, .release, .owned s .resting⟩ = none :=
        Option.isNone_iff_eq_none.1 (hkeep _ List.mem_cons_self)
      obtain ⟨-, hreleasing⟩ := hbegun.resolve_left (by simp [hopen])
      have hnext := consistent_keep hc (step_move _ now .release) hc.grant?_of_granted
      obtain ⟨es₁, -, -, rfl, hb, -⟩ := moments_split hrest
      obtain ⟨hcm, hm⟩ := releasing_of_run hnext hreleasing es₁ fun x hx =>
        hkeep x (List.mem_cons_of_mem _ hx)
      rw [← hb] at hcm hm
      obtain ⟨hcount, hbegins, hends, s', reply, hev, hafter, hst', hreport⟩ :=
        hm.concludes hcm hresult hreturns
      have hc' : Consistent autoRefresh (some grant) m.after :=
        consistent_keep hcm (step_move _ _ _) hcm.grant?_of_granted
      rw [hafter] at hc'
      have hfits := hc'.fits
      simp only [Session.Fits, hst'] at hfits
      obtain ⟨-, x', -, hx', hhide, hnone⟩ := hfits
      refine ⟨grant, reply, hg, ?_, hev, hends, hreport, fun e => isRemote_of_run policy
        autoRefresh es hl, s', hafter, hst', ?_, ?_, hnone, release_of_released hst'⟩
      · rw [← List.singleton_append, List.append_assoc, List.countP_append, countP_concat, hbegins,
          ← hcount]
        cases hbegin : Moment.beginsUnlock ⟨now, .release, .owned s .resting⟩ <;> simp [hbegin]
      · simp [Session.isLocked, hx', hhide.locked]
      · simp [hx', hhide.key]

/-- A release whose call is repeated before the service takes the lock back. -/
def repeatedRelease : List (Nat × Event) :=
  [(10002, .answer (.unlocked (.failure { code := .unavailable }))), (15002, .wake .holder),
    (15003, takenBack)]

/-- The release after a renewal that was refused says that the service took
the lock back, and that the renewal had failed. -/
theorem release_outcome_after_refusal : ∃ s, (new {} true).after refusedRun = .owned s .resting ∧
    s.owesUnlock = true ∧ ∃ ms m,
      (Lifecycle.owned s .resting).moments ((10001, .release) :: repeatedRelease) = ms ++ [m] ∧
      m.result = some (.released (.error (.renewalFailed "job-42" .invalidLockKey))) ∧
      (ms ++ [m]).countP Moment.beginsUnlock = 1 ∧
      (∃ reply : Reply UnlockResponse, m.event = .answer (.unlocked reply) ∧ reply.IsAccepted) ∧
      s.renewalError? = some .invalidLockKey ∧
      ∃ s', m.after = .owned s' .resting ∧ s'.state = .released ∧ s'.renewer = none := by
  obtain ⟨grant, reply, hg, hcount, hev, -, hreport, -, s', hafter, hst, -, -, hnone, -⟩ :=
    release_outcome {} true refusedRun repeatedRelease _ 10001 rfl rfl (by decide) [_, _, _] [] _ _
      rfl (by decide) rfl (by simp)
  obtain rfl : _ = grant := Option.some.inj hg
  obtain ⟨haccepted, herror⟩ := (hreport.renewalFailed .invalidLockKey).1 rfl
  exact ⟨_, rfl, rfl, [_, _, _], _, rfl, rfl, hcount, ⟨reply, hev, haccepted⟩, herror, s', hafter,
    hst, hnone⟩

end Lifecycle

end DistLock
