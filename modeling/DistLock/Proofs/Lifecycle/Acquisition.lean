import DistLock.Proofs.Lifecycle.Transitions
import DistLock.Proofs.Retry.Course

/-!
# The course of an acquisition

An acquisition is one invocation: the request is sent as often as the
invocation says and when it says (`acquires_of_repeats`), and the reply to
the last attempt settles the session and is reported to the owner
(`acquiredBy_of_last`). `Session.Settles` says what that reply comes to. A
wait that took too long is folded into a lock that was not acquired; no
other error is, and the session goes the same way as with the error
(`Session.complete_settled`).
-/

namespace DistLock

/-! ## What the last reply comes to -/

namespace Acquisition

variable {a : Acquisition} {now : Nat} {e : ClientError}

/-- A wait that took too long is no error. -/
def folds (a : Acquisition) : Bool := a.waits && !a.options.raiseOnWaitTimeout

/-- What the owner is told of the outcome of its call. -/
def report (a : Acquisition) (now : Nat) : Outcome LockResponse → Outcome LockHandle
  | .ok r => .ok (if r.locked then .held a.name r.key now else .notHeld a.name)
  | .error e =>
    if e = .lockWaitTimeout ∧ a.folds = true then .ok (.notHeld a.name) else .error e
  | .crash text => .crash text

theorem report_folded (h : e = .lockWaitTimeout ∧ a.folds = true) :
    a.report now (.error e) = .ok (.notHeld a.name) := if_pos h

theorem report_error (h : ¬ (e = .lockWaitTimeout ∧ a.folds = true)) :
    a.report now (.error e) = .error e := if_neg h

theorem soften_folded (h : a.folds = true) :
    a.soften (.error .lockWaitTimeout) = (.ok (.refused a.name), [.waitTimedOut a.name]) := by
  show (if a.folds then _ else _) = _
  rw [if_pos h]

theorem soften_error (h : ¬ (e = .lockWaitTimeout ∧ a.folds = true)) :
    a.soften (.error e) = (.error e, []) := by
  by_cases he : e = .lockWaitTimeout
  · subst he
    show (if a.folds then _ else _) = _
    rw [if_neg fun hf => h ⟨rfl, hf⟩]
  · unfold soften
    split
    · rename_i heq
      exact absurd (Outcome.error.inj heq) he
    · rfl

end Acquisition

namespace Session

variable {s : Session} {a : Acquisition} {now : Nat}

/-- The session after the outcome of its call for the lock. -/
def settled (s : Session) (a : Acquisition) (now : Nat) : Outcome LockResponse → Session
  | .ok r => if r.locked then (s.grant a r.key now).1 else s.refuse a.name
  | .error _ => s.refuse a.name
  | .crash _ => s

/-- What is folded is only what the owner is told: the session goes the
way of the error. -/
theorem complete_settled (s : Session) (a : Acquisition) (now : Nat)
    (outcome : Outcome LockResponse) :
    ∃ log, s.complete a now outcome =
      { next := s.settled a now outcome, log, result := some (a.report now outcome) } := by
  unfold complete
  cases outcome with
  | ok r =>
      simp only [Acquisition.soften, settled, Acquisition.report]
      cases r.locked <;> exact ⟨_, rfl⟩
  | error e =>
      by_cases hfold : e = .lockWaitTimeout ∧ a.folds = true
      · rw [Acquisition.report_folded hfold, hfold.1, Acquisition.soften_folded hfold.2]
        exact ⟨_, rfl⟩
      · rw [Acquisition.report_error hfold, Acquisition.soften_error hfold]
        exact ⟨_, rfl⟩
  | crash text => exact ⟨_, rfl⟩

/-- What comes of an acquisition by the last reply to it: the session
afterwards, and what its owner is told. -/
structure Settles (s : Session) (a : Acquisition) (now : Nat) (reply : Reply LockResponse)
    (s' : Session) (told : Outcome LockHandle) : Prop where
  /-- The lock is held exactly if the service says so, and says
  nothing against it. -/
  held : s'.state = .held ↔ ∃ r, reply = .response r ∧ r.error = none ∧ r.locked = true
  granted : ∀ r, reply = .response r → r.error = none → r.locked = true →
    s'.handle = some (.held a.name r.key now) ∧
    s'.renewer = (if 0 < a.options.lease ∧ s.autoRefresh = true
      then some { policy := s.policy, name := a.name, key := r.key, lease := a.options.lease }
      else s.renewer) ∧
    told = .ok (.held a.name r.key now)
  notHeld : (∀ text, reply ≠ .crash text) → s'.state ≠ .held →
    s' = s.refuse a.name ∧ ∀ h, told = .ok h → h = .notHeld a.name
  ok : (∃ h, told = .ok h) ↔ ∃ r, reply = .response r ∧
    (r.error = none ∨ ∃ d, r.error = some d ∧
      ErrorCode.ofInt32? d.code = some .lockWaitTimeout ∧
      a.waits = true ∧ a.options.raiseOnWaitTimeout = false)
  error : ∀ e, told = .error e → reply.outcome = .error e
  crash : ∀ text, reply = .crash text → s' = s ∧ told = .crash text

end Session

theorem ClientError.ofDecision_eq_lockWaitTimeout {d : RpcError} :
    ClientError.ofDecision d = .lockWaitTimeout ↔
      ErrorCode.ofInt32? d.code = some .lockWaitTimeout := by
  unfold ClientError.ofDecision
  split <;> simp_all

/-- A response comes to itself or to the decision in it. -/
theorem Reply.outcome_response (r : LockResponse) :
    (Reply.response r).outcome = match r.error with
      | none => .ok r
      | some d => .error (.ofDecision d) := rfl

namespace Acquisition

variable {a : Acquisition} {now : Nat} {e : ClientError}

theorem folds_eq_true :
    a.folds = true ↔ a.waits = true ∧ a.options.raiseOnWaitTimeout = false := by
  rw [folds, Bool.and_eq_true, Bool.not_eq_true']

theorem report_error_eq_ok {h : LockHandle} :
    a.report now (.error e) = .ok h ↔
      (e = .lockWaitTimeout ∧ a.folds = true) ∧ h = .notHeld a.name := by
  by_cases hfold : e = .lockWaitTimeout ∧ a.folds = true
  · rw [report_folded hfold, Outcome.ok.injEq]
    exact ⟨fun hh => ⟨hfold, hh.symm⟩, fun hh => hh.2.symm⟩
  · rw [report_error hfold]
    constructor
    · intro hh
      cases hh
    · intro hh
      exact absurd hh.1 hfold

theorem eq_of_report_error {e' : ClientError} (h : a.report now (.error e) = .error e') :
    e' = e := by
  by_cases hfold : e = .lockWaitTimeout ∧ a.folds = true
  · rw [report_folded hfold] at h
    cases h
  · rw [report_error hfold] at h
    exact (Outcome.error.inj h).symm

end Acquisition

namespace Session

variable {s : Session} {a : Acquisition} {now : Nat}

/-- A lock that was granted. -/
theorem settles_granted {r : LockResponse} (herror : r.error = none) (hlocked : r.locked = true) :
    s.Settles a now (.response r) (s.grant a r.key now).1 (.ok (.held a.name r.key now)) where
  held := ⟨fun _ => ⟨r, rfl, herror, hlocked⟩, fun _ => grant_state⟩
  granted := by
    intro r' hr' _ _
    obtain rfl := Reply.response.inj hr'
    exact ⟨grant_handle, grant_renewer, rfl⟩
  notHeld := fun _ hne => absurd grant_state hne
  ok := ⟨fun _ => ⟨r, rfl, .inl herror⟩, fun _ => ⟨_, rfl⟩⟩
  error := by
    intro e he
    cases he
  crash := by
    intro text ht
    cases ht

/-- A lock that was refused without a decision. -/
theorem settles_refused {r : LockResponse} (herror : r.error = none) (hlocked : r.locked = false) :
    s.Settles a now (.response r) (s.refuse a.name) (.ok (.notHeld a.name)) where
  held := by
    constructor
    · intro h
      cases h
    · rintro ⟨r', hr', -, hlocked'⟩
      obtain rfl := Reply.response.inj hr'
      rw [hlocked] at hlocked'
      cases hlocked'
  granted := by
    intro r' hr' _ hlocked'
    obtain rfl := Reply.response.inj hr'
    rw [hlocked] at hlocked'
    cases hlocked'
  notHeld := fun _ _ => ⟨rfl, fun h hh => (Outcome.ok.inj hh).symm⟩
  ok := ⟨fun _ => ⟨r, rfl, .inl herror⟩, fun _ => ⟨_, rfl⟩⟩
  error := by
    intro e he
    cases he
  crash := by
    intro text ht
    cases ht

/-- An error, be it of the service or of the call. -/
theorem settles_error {reply : Reply LockResponse} {e : ClientError}
    (hout : reply.outcome = .error e) :
    s.Settles a now reply (s.refuse a.name) (a.report now (.error e)) where
  held := by
    constructor
    · intro h
      cases h
    · rintro ⟨r, rfl, herror, -⟩
      simp only [Reply.outcome_response, herror] at hout
      cases hout
  granted := by
    rintro r rfl herror -
    simp only [Reply.outcome_response, herror] at hout
    cases hout
  notHeld := fun _ _ => ⟨rfl, fun h hh => (Acquisition.report_error_eq_ok.1 hh).2⟩
  ok := by
    constructor
    · rintro ⟨h, hh⟩
      obtain ⟨⟨rfl, hfolds⟩, -⟩ := Acquisition.report_error_eq_ok.1 hh
      -- only a decision of the service is a wait that took too long
      cases reply with
      | response r =>
          cases herror : r.error with
          | none =>
              simp only [Reply.outcome_response, herror] at hout
              cases hout
          | some d =>
              simp only [Reply.outcome_response, herror, Outcome.error.injEq] at hout
              exact ⟨r, rfl, .inr ⟨d, herror, ClientError.ofDecision_eq_lockWaitTimeout.1 hout,
                Acquisition.folds_eq_true.1 hfolds⟩⟩
      | failure status => cases hout
      | crash text => cases hout
    · rintro ⟨r, rfl, herror | ⟨d, herror, hcode, hfolds⟩⟩
      · simp only [Reply.outcome_response, herror] at hout
        cases hout
      · simp only [Reply.outcome_response, herror, Outcome.error.injEq] at hout
        have he : e = .lockWaitTimeout :=
          hout.symm.trans (ClientError.ofDecision_eq_lockWaitTimeout.2 hcode)
        exact ⟨_, Acquisition.report_error_eq_ok.2
          ⟨⟨he, Acquisition.folds_eq_true.2 hfolds⟩, rfl⟩⟩
  error := by
    intro e' he'
    rw [Acquisition.eq_of_report_error he', hout]
  crash := by
    rintro text rfl
    cases hout

/-- A call that broke down. -/
theorem settles_crash (hs : s.state ≠ .held) (text : String) :
    s.Settles a now (.crash text) s (.crash text) where
  held := by
    constructor
    · intro h
      exact absurd h hs
    · rintro ⟨r, hr, -⟩
      cases hr
  granted := by
    intro r hr
    cases hr
  notHeld := fun hcrash => absurd rfl (hcrash text)
  ok := by
    constructor
    · rintro ⟨h, hh⟩
      cases hh
    · rintro ⟨r, hr, -⟩
      cases hr
  error := by
    intro e he
    cases he
  crash := by
    intro text' ht
    obtain rfl := Reply.crash.inj ht
    exact ⟨rfl, rfl⟩

/-- Whatever the reply is, it settles the session. -/
theorem settles (hs : s.state ≠ .held) (reply : Reply LockResponse) :
    s.Settles a now reply (s.settled a now reply.outcome) (a.report now reply.outcome) := by
  cases reply with
  | response r =>
      rw [Reply.outcome_response]
      cases herror : r.error with
      | none =>
          simp only [settled, Acquisition.report]
          cases hlocked : r.locked with
          | true => exact settles_granted herror hlocked
          | false => exact settles_refused herror hlocked
      | some d => exact settles_error (by rw [Reply.outcome_response, herror])
  | failure status => exact settles_error rfl
  | crash text => exact settles_crash hs text

end Session

/-! ## The course -/

namespace Acquisition

/-- The call that an acquisition makes. -/
def invocation (a : Acquisition) (policy : RetryPolicy) : Invocation Request :=
  { policy, operation := a.operation, request := a.request }

/-- What happens from the beginning of an acquisition until reply `k`
is to come: each reply arrives, and the owner goes on when the pause
after it is over. -/
def eventsUntil (a : Acquisition) (o : Prospect LockResponse) (pause start : Nat) :
    Nat → List (Nat × Event)
  | 0 => [(start, .acquire a)]
  | k + 1 => eventsUntil a o pause start k ++
      [(o.answeredAt start pause k, .answer (.acquired (o.reply k))),
        (o.dueAt start pause (k + 1), .wake .holder)]

/-- The same with reply `k`. -/
def eventsThrough (a : Acquisition) (o : Prospect LockResponse) (pause start k : Nat) :
    List (Nat × Event) :=
  a.eventsUntil o pause start k ++
    [(o.answeredAt start pause k, .answer (.acquired (o.reply k)))]

end Acquisition

/-- What was sent in a run, and when. -/
def requestsOf (ms : List Moment) : List (Nat × Request) :=
  ms.filterMap fun m => m.sent.map (m.now, ·)

theorem requestsOf_append (ms ms' : List Moment) :
    requestsOf (ms ++ ms') = requestsOf ms ++ requestsOf ms' := List.filterMap_append

namespace Lifecycle

variable {s : Session} {a : Acquisition} {o : Prospect LockResponse} {i : Invocation Request}
  {l : Lifecycle} {es : List (Nat × Event)} {calls : List (Nat × Request)} {start now k : Nat}

/-- A reply after which the call is repeated begins a pause. -/
theorem answer_again (s : Session) (a : Acquisition) (now : Nat) {reply : Reply LockResponse}
    (ht : reply.isTransient = true)
    (hx : i.policy.isExhausted i.retries = false) :
    ∃ log, (Lifecycle.owned s (.acquiring a ⟨i, none⟩)).step now (.answer (.acquired reply)) =
      { next := .owned s (.acquiring a ⟨i.next, some (now + i.policy.pause)⟩), log } := by
  obtain ⟨log, hsettle⟩ := Invocation.settle_again ht hx
  refine ⟨log, ?_⟩
  simp only [step, Activity.answer, Run.isWaiting, Run.answer, hsettle]
  rfl

/-- When the pause is over, the request is sent again. -/
theorem wake_again (now : Nat) :
    (Lifecycle.owned s (.acquiring a ⟨i, some now⟩)).step now (.wake .holder) =
      { next := .owned s (.acquiring a ⟨i, none⟩), sent := some i.request } := by
  simp only [step, Activity.wake, Run.resume?, Nat.le_refl, if_true]
  rfl

/-- Any other reply ends the acquisition. -/
theorem answer_last (s : Session) (a : Acquisition) (now : Nat) {reply : Reply LockResponse}
    (h : reply.isTransient = true → i.policy.isExhausted i.retries = true) :
    ∃ log, (Lifecycle.owned s (.acquiring a ⟨i, none⟩)).step now (.answer (.acquired reply)) =
      { next := .owned (s.settled a now reply.outcome) .resting
        log
        result := some (.acquired (a.report now reply.outcome)) } := by
  obtain ⟨log, hsettle⟩ := Invocation.settle_finished h
  obtain ⟨more, hcomplete⟩ := s.complete_settled a now reply.outcome
  refine ⟨log ++ more, ?_⟩
  simp only [step, Activity.answer, Run.isWaiting, Run.answer, hsettle, hcomplete]
  rfl

/-- As long as its call is repeated, an acquisition is under way, and
nothing is reported. -/
structure Acquires (l : Lifecycle) (es : List (Nat × Event)) (s : Session) (a : Acquisition)
    (run : Run Request) (calls : List (Nat × Request)) : Prop where
  after : l.after es = .owned s (.acquiring a run)
  calls : requestsOf (l.moments es) = calls
  silent : ∀ m ∈ l.moments es, m.result = none

/-- One more event that reports nothing. -/
theorem Acquires.concat {run run' : Run Request} {e : Event} {log : List LogEvent}
    {sent : Option Request} (h : Acquires l es s a run calls)
    (hstep : (Lifecycle.owned s (.acquiring a run)).step now e =
      { next := .owned s (.acquiring a run'), sent, log }) :
    Acquires l (es ++ [(now, e)]) s a run' (calls ++ (sent.map (now, ·)).toList) where
  after := by
    rw [after_append, h.after, after_cons, hstep]
    rfl
  calls := by
    have hsent : requestsOf ((Lifecycle.owned s (.acquiring a run)).moments [(now, e)]) =
        (sent.map (now, ·)).toList := by
      have hlast : Moment.sent ⟨now, e, .owned s (.acquiring a run)⟩ = sent := by
        rw [Moment.sent, Moment.step, hstep]
      simp only [moments_cons, moments_nil, requestsOf, List.filterMap_cons, hlast]
      cases sent <;> rfl
    rw [moments_append, requestsOf_append, h.calls, h.after, hsent]
  silent := by
    intro m hm
    rw [moments_append, List.mem_append, h.after, moments_cons, moments_nil,
      List.mem_singleton] at hm
    rcases hm with hm | rfl
    · exact h.silent m hm
    · rw [Moment.result, Moment.step, hstep]

/-- The beginning of an acquisition that is not refused. -/
theorem acquire_begins (hs : ¬ s.Refuses a) (start : Nat) :
    (Lifecycle.owned s .resting).step start (.acquire a) =
      { next := .owned { s with state := .acquiring }
          (.acquiring a ⟨a.invocation s.policy, none⟩)
        sent := some a.request } := by
  simp only [step, Session.startAcquire, Session.begin_of_not_refuses hs]
  rfl

/-- As long as the call is repeated, the acquisition is under way: the
request was sent at the times of the attempts, and nothing was reported. -/
theorem acquires_of_repeats (start : Nat) (hs : ¬ s.Refuses a)
    (hrep : (a.invocation s.policy).Repeats o k) :
    Acquires (.owned s .resting) (a.eventsUntil o s.policy.pause start k)
      { s with state := .acquiring } a ⟨(a.invocation s.policy).repeated k, none⟩
      ((a.invocation s.policy).attempts o start (k + 1)) := by
  induction k with
  | zero =>
      have hbegin := acquire_begins hs start
      refine ⟨?_, ?_, ?_⟩
      · rw [Invocation.repeated_zero]
        exact congrArg Step.next hbegin
      · simp only [Acquisition.eventsUntil, moments_cons, moments_nil, requestsOf,
          List.filterMap_cons, Moment.sent, Moment.step, hbegin]
        simp [Invocation.attempts, Acquisition.invocation]
      · intro m hm
        simp only [Acquisition.eventsUntil, moments_cons, moments_nil, List.mem_singleton] at hm
        subst hm
        exact congrArg Step.result hbegin
  | succ k ih =>
      have hbefore : (a.invocation s.policy).Repeats o k := fun j hj => hrep j (by omega)
      obtain ⟨ht, hx⟩ := hrep k (Nat.lt_succ_self k)
      obtain ⟨log, hanswer⟩ := answer_again { s with state := .acquiring } a
        (o.answeredAt start s.policy.pause k) (i := (a.invocation s.policy).repeated k) ht hx
      have hpaused := (ih hbefore).concat hanswer
      have hdue : o.answeredAt start s.policy.pause k +
          ((a.invocation s.policy).repeated k).policy.pause =
            o.dueAt start s.policy.pause (k + 1) :=
        (o.dueAt_after_answer start s.policy.pause k).symm
      rw [hdue, Invocation.repeated_next] at hpaused
      have hagain := hpaused.concat (wake_again _)
      rw [Invocation.attempts_concat (k + 1)]
      rw [List.append_assoc, Option.map_none, Option.toList_none, List.append_nil] at hagain
      exact hagain

/-- The course of an acquisition whose call ends with attempt `k`:
nothing is reported before the reply to that attempt, and the reply
settles the session. -/
structure AcquiredBy (s : Session) (a : Acquisition) (o : Prospect LockResponse) (start k : Nat)
    (s' : Session) (told : Outcome LockHandle) : Prop where
  after : (Lifecycle.owned s .resting).after (a.eventsThrough o s.policy.pause start k) =
    .owned s' .resting
  calls : requestsOf ((Lifecycle.owned s .resting).moments
    (a.eventsThrough o s.policy.pause start k)) =
      (a.invocation s.policy).attempts o start (k + 1)
  silent : ∀ m ∈ (Lifecycle.owned s .resting).moments
    (a.eventsUntil o s.policy.pause start k), m.result = none
  told : ((Lifecycle.owned s .resting).moments
    (a.eventsThrough o s.policy.pause start k)).getLast?.bind (·.result) =
      some (.acquired told)

theorem acquiredBy_of_last (hs : ¬ s.Refuses a) (hrep : (a.invocation s.policy).Repeats o k)
    (hlast : (a.invocation s.policy).IsLast o k) :
    let now := o.answeredAt start s.policy.pause k
    AcquiredBy s a o start k
      (Session.settled { s with state := .acquiring } a now (o.reply k).outcome)
      (a.report now (o.reply k).outcome) := by
  intro now
  have hcourse := acquires_of_repeats start hs hrep
  obtain ⟨log, hanswer⟩ := answer_last { s with state := .acquiring } a now
    (i := (a.invocation s.policy).repeated k) hlast
  refine ⟨?_, ?_, hcourse.silent, ?_⟩
  · rw [Acquisition.eventsThrough, after_append, hcourse.after]
    exact congrArg Step.next hanswer
  · rw [Acquisition.eventsThrough, moments_append, requestsOf_append, hcourse.calls, hcourse.after]
    have hsent := congrArg Step.sent hanswer
    simp [requestsOf, Moment.sent, Moment.step, now, hsent]
  · rw [Acquisition.eventsThrough, moments_append, hcourse.after, List.getLast?_append]
    have hresult := congrArg Step.result hanswer
    simp [Moment.result, Moment.step, now, hresult]

end Lifecycle

end DistLock
