import DistLock.Proofs.Lifecycle.Acquisition

/-!
# Acquisitions side by side

Two acquisitions of one lock with one lease, by equal sessions to which
the same things happen. They go in lockstep (`Alike.run`): what one sends
the other sends at the same time, though it may be another request, and
the sessions are equal at every moment, whatever their owners and
renewers do before and after. Their owners are told the same, except of a
wait that took too long.

`acquisition_outcome` puts this together with the course of a
single acquisition.
-/

namespace DistLock

/-- The calls of the two acquisitions are as far as each other; each sends
its own request. -/
structure Invocation.InStep (a a' : Acquisition) (i i' : Invocation Request) : Prop where
  policy : i'.policy = i.policy
  retries : i'.retries = i.retries
  request : i.request = a.request
  request' : i'.request = a'.request

/-- The lives are equal, or the two acquisitions are under way with equal
sessions and calls in step. -/
inductive Lifecycle.Alike (a a' : Acquisition) : Lifecycle → Lifecycle → Prop
  | same (l : Lifecycle) : Alike a a' l l
  | acquiring {i i' : Invocation Request} (h : i.InStep a a' i') (s : Session)
      (resumeAt : Option Nat) :
      Alike a a' (.owned s (.acquiring a ⟨i, resumeAt⟩)) (.owned s (.acquiring a' ⟨i', resumeAt⟩))

/-- What happens in the one life happens in the other at the same time: each
sends its own request, or both send the same. The owners are told the same,
or each is told in its own way of a wait that took too long. -/
structure Moment.Alike (a a' : Acquisition) (m m' : Moment) : Prop where
  now : m'.now = m.now
  sent : m'.sent = m.sent ∨ m.sent = some a.request ∧ m'.sent = some a'.request
  result : m'.result = m.result ∨
    ∃ reply, m.event = .answer (.acquired reply) ∧ reply.outcome = .error .lockWaitTimeout ∧
      m.result = some (.acquired (a.report m.now (.error .lockWaitTimeout))) ∧
      m'.result = some (.acquired (a'.report m.now (.error .lockWaitTimeout)))
  after : Lifecycle.Alike a a' m.after m'.after

/-! ## One event -/

namespace Session

variable {a a' : Acquisition}

/-- Where a session ends is a matter of the name and the lease. -/
theorem settled_congr (hname : a'.name = a.name) (hlease : a'.options.lease = a.options.lease)
    (s : Session) (now : Nat) (outcome : Outcome LockResponse) :
    s.settled a' now outcome = s.settled a now outcome := by
  cases outcome with
  | ok r =>
      have hgrant : (s.grant a' r.key now).1 = (s.grant a r.key now).1 := by
        simp only [grant, hname, hlease]
      simp only [settled, hgrant, hname]
  | error e => simp only [settled, hname]
  | crash text => rfl

end Session

/-- Of anything but a wait that took too long, all owners are told the same. -/
theorem Acquisition.report_congr {a a' : Acquisition} (hname : a'.name = a.name) (now : Nat)
    {outcome : Outcome LockResponse} (h : outcome ≠ .error .lockWaitTimeout) :
    a'.report now outcome = a.report now outcome := by
  cases outcome with
  | ok r => simp only [report, hname]
  | error e =>
      have he : e ≠ .lockWaitTimeout := fun he => h (congrArg _ he)
      rw [report_error fun hf => he hf.1, report_error fun hf => he hf.1]
  | crash text => rfl

/-- Moments are alike by what their events did. -/
theorem Moment.alike_of_steps {a a' : Acquisition} {now : Nat} {e e' : Event} {l l' : Lifecycle}
    {t t' : Step Lifecycle OwnerResult} (ht : l.step now e = t) (ht' : l'.step now e' = t')
    (sent : t'.sent = t.sent ∨ t.sent = some a.request ∧ t'.sent = some a'.request)
    (result : t'.result = t.result ∨
      ∃ reply, e = .answer (.acquired reply) ∧ reply.outcome = .error .lockWaitTimeout ∧
        t.result = some (.acquired (a.report now (.error .lockWaitTimeout))) ∧
        t'.result = some (.acquired (a'.report now (.error .lockWaitTimeout))))
    (after : Lifecycle.Alike a a' t.next t'.next) :
    Moment.Alike a a' ⟨now, e, l⟩ ⟨now, e', l'⟩ := by
  subst ht ht'
  exact ⟨rfl, sent, result, after⟩

namespace Lifecycle

variable {a a' : Acquisition} {l l' : Lifecycle} {s : Session} {i i' : Invocation Request}
  {resumeAt : Option Nat}

/-- What a renewer does is the same in both lives, and leaves what is
under way alone. -/
theorem alike_onRenewer {now : Nat} {e : Event} {f : Renewer → Step Renewer Unit}
    (h : i.InStep a a' i') (hstep : ∀ l : Lifecycle, l.step now e = l.onRenewer f) :
    Moment.Alike a a' ⟨now, e, .owned s (.acquiring a ⟨i, resumeAt⟩)⟩
      ⟨now, e, .owned s (.acquiring a' ⟨i', resumeAt⟩)⟩ := by
  cases hr : s.renewer with
  | none =>
      have hstay (activity : Activity) : (Lifecycle.owned s activity).step now e =
          .stay (.owned s activity) := by
        rw [hstep]
        simp only [onRenewer, renewer?, hr]
      exact Moment.alike_of_steps (hstay _) (hstay _) (.inl rfl) (.inl rfl) (.acquiring h _ _)
  | some r =>
      have hnext (activity : Activity) : (Lifecycle.owned s activity).step now e =
          ((f r).lift (Lifecycle.owned s activity).setRenewer).silent := by
        rw [hstep]
        simp only [onRenewer, renewer?, hr]
      exact Moment.alike_of_steps (hnext _) (hnext _) (.inl rfl) (.inl rfl) (.acquiring h _ _)

/-- The reply to an attempt makes both try again, or ends both. -/
theorem alike_answer (hname : a'.name = a.name) (hlease : a'.options.lease = a.options.lease)
    (h : i.InStep a a' i') (now : Nat) (reply : Reply LockResponse) :
    Moment.Alike a a'
      ⟨now, .answer (.acquired reply), .owned s (.acquiring a ⟨i, none⟩)⟩
      ⟨now, .answer (.acquired reply), .owned s (.acquiring a' ⟨i', none⟩)⟩ := by
  by_cases hlast : reply.isTransient = true → i.policy.isExhausted i.retries = true
  · have hlast' : reply.isTransient = true → i'.policy.isExhausted i'.retries = true := by
      rwa [h.policy, h.retries]
    obtain ⟨log, hstep⟩ := answer_last s a now hlast
    obtain ⟨log', hstep'⟩ := answer_last s a' now hlast'
    refine Moment.alike_of_steps hstep hstep' (.inl rfl) ?_ ?_
    · by_cases htimeout : reply.outcome = .error .lockWaitTimeout
      · exact .inr ⟨reply, rfl, htimeout, by rw [htimeout], by rw [htimeout]⟩
      · exact .inl (by rw [Acquisition.report_congr hname now htimeout])
    · rw [Session.settled_congr hname hlease]
      exact .same _
  · simp only [Classical.not_imp, Bool.not_eq_true] at hlast
    have hroom' : i'.policy.isExhausted i'.retries = false := by
      rw [h.policy, h.retries]
      exact hlast.2
    obtain ⟨log, hstep⟩ := answer_again s a now hlast.1 hlast.2
    obtain ⟨log', hstep'⟩ := answer_again s a' now hlast.1 hroom'
    have hnext : i.next.InStep a a' i'.next :=
      ⟨h.policy, congrArg (· + 1) h.retries, h.request, h.request'⟩
    refine Moment.alike_of_steps hstep hstep' (.inl rfl) (.inl rfl) ?_
    rw [h.policy]
    exact .acquiring hnext s _

/-- Both go on when their pause is over. -/
theorem alike_wake (h : i.InStep a a' i') (now : Nat) :
    Moment.Alike a a' ⟨now, .wake .holder, .owned s (.acquiring a ⟨i, resumeAt⟩)⟩
      ⟨now, .wake .holder, .owned s (.acquiring a' ⟨i', resumeAt⟩)⟩ := by
  cases resumeAt with
  | none => exact Moment.alike_of_steps rfl rfl (.inl rfl) (.inl rfl) (.acquiring h s none)
  | some due =>
      by_cases hdue : due ≤ now
      · have hresume (a : Acquisition) (i : Invocation Request) :
            (Lifecycle.owned s (.acquiring a ⟨i, some due⟩)).step now (.wake .holder) =
              { next := .owned s (.acquiring a ⟨i, none⟩), sent := some i.request } := by
          simp only [step, Activity.wake, Run.resume?, if_pos hdue]
          rfl
        refine Moment.alike_of_steps (hresume a i) (hresume a' i') (.inr ?_) (.inl rfl)
          (.acquiring h s none)
        exact ⟨congrArg some h.request, congrArg some h.request'⟩
      · have hpause (a : Acquisition) (i : Invocation Request) :
            (Lifecycle.owned s (.acquiring a ⟨i, some due⟩)).step now (.wake .holder) =
              .stay (.owned s (.acquiring a ⟨i, some due⟩)) := by
          simp only [step, Activity.wake, Run.resume?, if_neg hdue]
        exact Moment.alike_of_steps (hpause a i) (hpause a' i') (.inl rfl) (.inl rfl)
          (.acquiring h s (some due))

/-- Whatever happens to lives that are alike, they remain so. -/
theorem Alike.step (hname : a'.name = a.name) (hlease : a'.options.lease = a.options.lease)
    (h : Alike a a' l l') (now : Nat) (e : Event) :
    Moment.Alike a a' ⟨now, e, l⟩ ⟨now, e, l'⟩ := by
  cases h with
  | same l => exact ⟨rfl, .inl rfl, .inl rfl, .same _⟩
  | acquiring h s resumeAt =>
      have halike := Alike.acquiring h s resumeAt
      cases e with
      | acquire b => exact Moment.alike_of_steps rfl rfl (.inl rfl) (.inl rfl) halike
      | release => exact Moment.alike_of_steps rfl rfl (.inl rfl) (.inl rfl) halike
      | abandon => exact Moment.alike_of_steps rfl rfl (.inl rfl) (.inl rfl) (.same _)
      | drop background => exact Moment.alike_of_steps rfl rfl (.inl rfl) (.inl rfl) (.same _)
      | answer b =>
          cases b with
          | acquired reply =>
              cases resumeAt with
              | none => exact alike_answer hname hlease h now reply
              | some due =>
                  -- an answer for which nobody waits
                  exact Moment.alike_of_steps rfl rfl (.inl rfl) (.inl rfl) halike
          | refreshed reply => exact alike_onRenewer h fun _ => rfl
          | unlocked reply => exact Moment.alike_of_steps rfl rfl (.inl rfl) (.inl rfl) halike
      | wake w =>
          cases w with
          | holder => exact alike_wake h now
          | renewer => exact alike_onRenewer h fun _ => rfl

/-! ## Runs -/

/-- Lives that are alike go in lockstep, whatever happens to them. -/
theorem Alike.run (hname : a'.name = a.name) (hlease : a'.options.lease = a.options.lease)
    (h : Alike a a' l l') (es : List (Nat × Event)) :
    List.Forall₂ (Moment.Alike a a') (l.moments es) (l'.moments es) := by
  induction es generalizing l l' with
  | nil => exact .nil
  | cons p es ih =>
      have hstep := h.step hname hlease p.1 p.2
      exact .cons hstep (ih hstep.after)

/-- Acquisitions that begin in the same way go in lockstep
from the beginning. -/
theorem lockstep (s : Session) (a a' : Acquisition) (hname : a'.name = a.name)
    (hlease : a'.options.lease = a.options.lease)
    (hbegin : s.begin a' = s.begin a) (start : Nat) (es : List (Nat × Event)) :
    List.Forall₂ (Moment.Alike a a')
      ((Lifecycle.owned s .resting).moments ((start, .acquire a) :: es))
      ((Lifecycle.owned s .resting).moments ((start, .acquire a') :: es)) := by
  have hfirst : Moment.Alike a a' ⟨start, .acquire a, .owned s .resting⟩
      ⟨start, .acquire a', .owned s .resting⟩ := by
    cases hb : s.begin a with
    | error e =>
        have hrefused (b : Acquisition) (hb : s.begin b = .error e) :
            (Lifecycle.owned s .resting).step start (.acquire b) =
              { next := .owned s .resting, result := some (.acquired (.error e)) } := by
          simp only [step, Session.startAcquire, hb]
        exact Moment.alike_of_steps (hrefused a hb) (hrefused a' (hbegin.trans hb)) (.inl rfl)
          (.inl rfl) (.same _)
    | ok t =>
        have hbegun (b : Acquisition) (hb : s.begin b = .ok t) :
            (Lifecycle.owned s .resting).step start (.acquire b) =
              { next := .owned t (.acquiring b ⟨b.invocation t.policy, none⟩)
                sent := some b.request } := by
          simp only [step, Session.startAcquire, hb]
          rfl
        have hstep : (a.invocation t.policy).InStep a a' (a'.invocation t.policy) :=
          ⟨rfl, rfl, rfl, rfl⟩
        exact Moment.alike_of_steps (hbegun a hb) (hbegun a' (hbegin.trans hb))
          (.inr ⟨rfl, rfl⟩) (.inl rfl) (.acquiring hstep t none)
  exact .cons hfirst (hfirst.after.run hname hlease es)

/-- Acquisitions with one request send the same at the same times. -/
theorem requestsOf_eq_of_alike (hrequest : a'.request = a.request) {ms ms' : List Moment}
    (h : List.Forall₂ (Moment.Alike a a') ms ms') : requestsOf ms' = requestsOf ms := by
  induction h with
  | nil => rfl
  | @cons m m' ms ms' hm _ ih =>
      have hsent : m'.sent = m.sent := by
        rcases hm.sent with hsent | ⟨hsent, hsent'⟩
        · exact hsent
        · rw [hsent, hsent', hrequest]
      unfold requestsOf at ih ⊢
      rw [List.filterMap_cons, List.filterMap_cons, hsent, hm.now, ih]

/-- Owners for whom a wait that took too long is the same are told the same. -/
theorem results_eq_of_alike (hname : a'.name = a.name) (hfolds : a'.folds = a.folds)
    {ms ms' : List Moment} (h : List.Forall₂ (Moment.Alike a a') ms ms') :
    ms'.map (·.result) = ms.map (·.result) := by
  induction h with
  | nil => rfl
  | @cons m m' ms ms' hm _ ih =>
      have hresult : m'.result = m.result := by
        rcases hm.result with hresult | ⟨reply, -, -, hresult, hresult'⟩
        · exact hresult
        · rw [hresult, hresult']
          simp only [Acquisition.report, hname, hfolds]
      rw [List.map_cons, List.map_cons, hresult, ih]

end Lifecycle

namespace Acquisition

/-- The same acquisition, with or without an error for a wait that
takes too long. -/
def raising (a : Acquisition) (raise : Bool) : Acquisition :=
  { a with options := { a.options with raiseOnWaitTimeout := raise } }

/-- The same acquisition without waiting. -/
def trying (a : Acquisition) : Acquisition :=
  { a with waits := false, options := { a.options with waitTimeout := 0 } }

theorem begin_raising (a : Acquisition) (s : Session) (raise : Bool) :
    s.begin (a.raising raise) = s.begin a := rfl

theorem begin_trying {a : Acquisition} (h : a.waits = true) (s : Session) :
    s.begin a.trying = s.begin a := by
  have hcheck : a.check = .ok () := by
    rw [check, h]
    rfl
  have htrying : a.trying.check = .ok () := rfl
  unfold Session.begin
  rw [hcheck, htrying]
  rfl

end Acquisition

namespace Lifecycle

/-- **Acquisition.** An idle session takes a lock for any wish with a name,
whatever lies ahead.

* Its call ends with some attempt, or is repeated for ever. Until it ends
  nothing is reported; the last reply settles the session and is reported.
* Whether a wait that takes too long is to be an error makes no
  difference to what is sent and when, nor to the session, whatever
  happens before and after; it makes one to what is reported of such a
  wait, and of nothing else.
* Trying for a lock, and waiting for it with an error for a wait that takes
  too long, go in lockstep under the same replies, and are reported alike. -/
theorem acquisition_outcome (s : Session) (hs : s.state = .idle) :
    (∀ (a : Acquisition) (o : Prospect LockResponse) (start : Nat), a.name ≠ "" →
      (a.waits = true ∨ a.options.waitTimeout = 0) →
      let i := a.invocation s.policy
      ((∃ k, i.EndsWith o start k) ∨ ∀ k, i.Repeats o k) ∧
      (∀ k, i.Repeats o k → ∃ run, Acquires (.owned s .resting)
        (a.eventsUntil o s.policy.pause start k) { s with state := .acquiring } a run
        (i.attempts o start (k + 1))) ∧
      ∀ k, i.EndsWith o start k → ∃ s' told, AcquiredBy s a o start k s' told ∧
        Session.Settles { s with state := .acquiring } a (o.answeredAt start s.policy.pause k)
          (o.reply k) s' told) ∧
    (∀ (a : Acquisition) (start : Nat) (es : List (Nat × Event)),
      let ms := (Lifecycle.owned s .resting).moments ((start, .acquire (a.raising false)) :: es)
      let ms' := (Lifecycle.owned s .resting).moments ((start, .acquire (a.raising true)) :: es)
      List.Forall₂ (Moment.Alike (a.raising false) (a.raising true)) ms ms' ∧
        requestsOf ms' = requestsOf ms) ∧
    ∀ (a : Acquisition) (start : Nat) (es : List (Nat × Event)), a.waits = true →
      a.options.raiseOnWaitTimeout = true →
      let ms := (Lifecycle.owned s .resting).moments ((start, .acquire a) :: es)
      let ms' := (Lifecycle.owned s .resting).moments ((start, .acquire a.trying) :: es)
      List.Forall₂ (Moment.Alike a a.trying) ms ms' ∧
        ms'.map (·.result) = ms.map (·.result) := by
  refine ⟨?_, ?_, ?_⟩
  · intro a o start hname hwait i
    have haccepted : ¬ s.Refuses a := by
      rintro (hstate | hempty | ⟨hwaits, htimeout⟩)
      · exact hstate hs
      · exact hname hempty
      · rcases hwait with hwait | hwait
        · rw [hwaits] at hwait
          cases hwait
        · rw [hwait] at htimeout
          exact absurd htimeout (by decide)
    refine ⟨?_, ?_, ?_⟩
    · by_cases hforever : ∀ k, i.Repeats o k
      · exact .inr hforever
      · obtain ⟨n, hn⟩ := Classical.not_forall.1 hforever
        obtain ⟨k, -, hrep, hlast⟩ := (Invocation.repeats_or_last i o n).resolve_left hn
        exact .inl ⟨k, hrep.endsWith hlast⟩
    · intro k hrep
      exact ⟨_, acquires_of_repeats start haccepted hrep⟩
    · intro k hends
      obtain ⟨hrep, hlast⟩ := hends.repeats
      exact ⟨_, _, acquiredBy_of_last haccepted hrep hlast,
        Session.settles (by simp) (o.reply k)⟩
  · intro a start es ms ms'
    have halike := lockstep s (a.raising false) (a.raising true) rfl rfl
      ((a.begin_raising s true).trans (a.begin_raising s false).symm) start es
    have hrequest : (a.raising true).request = (a.raising false).request := rfl
    exact ⟨halike, requestsOf_eq_of_alike hrequest halike⟩
  · intro a start es hwaits hraise ms ms'
    have halike := lockstep s a a.trying rfl rfl
      (Acquisition.begin_trying hwaits s) start es
    have hfolds : a.trying.folds = a.folds := by
      simp [Acquisition.folds, Acquisition.trying, hraise]
    have hname : a.trying.name = a.name := rfl
    exact ⟨halike, results_eq_of_alike hname hfolds halike⟩

/-- A service that cannot be reached at first, and then grants the lock. -/
def lateGrant : Prospect LockResponse where
  delay _ := 5
  reply j := if j = 0 then .failure { code := .unavailable }
    else .response (.granted "job-42" "key-1")

/-- A lock that is granted to the second attempt, and a wait that takes too
long: to wait for it is no error or one, and to try is the same error. -/
theorem acquisition_outcome_late :
    let s : Session := { policy := ⟨1000, 3⟩ }
    let a : Acquisition := { waits := true, name := "job-42", options := { lease := 20 } }
    let timeout : Event := .answer (.acquired (.response
      { name := "job-42", error := some (.ofCode .lockWaitTimeout "too long") }))
    (∃ s' told, AcquiredBy s a lateGrant 0 1 s' told ∧ s'.state = .held ∧
      told = .ok (.held "job-42" "key-1" 1010)) ∧
    ((Lifecycle.owned s .resting).moments
        [(0, .acquire (a.raising false)), (9, timeout)]).map (·.result) =
      [none, some (.acquired (.ok (.notHeld "job-42")))] ∧
    requestsOf ((Lifecycle.owned s .resting).moments
        [(0, .acquire (a.raising true)), (9, timeout)]) =
      requestsOf ((Lifecycle.owned s .resting).moments
        [(0, .acquire (a.raising false)), (9, timeout)]) ∧
    ((Lifecycle.owned s .resting).moments
        [(0, .acquire (a.raising true).trying), (9, timeout)]).map (·.result) =
      [none, some (.acquired (.error .lockWaitTimeout))] := by
  intro s a timeout
  obtain ⟨hcourse, hraise, htry⟩ := acquisition_outcome s rfl
  refine ⟨?_, rfl, ?_, ?_⟩
  · have hends : (a.invocation s.policy).EndsWith lateGrant 0 1 :=
      Invocation.Repeats.endsWith (by unfold Invocation.Repeats; decide) (by decide)
    obtain ⟨s', told, hacquired, hsettles⟩ :=
      (hcourse a lateGrant 0 (by decide) (.inl rfl)).2.2 1 hends
    refine ⟨s', told, hacquired, ?_, ?_⟩
    · exact hsettles.held.2 ⟨_, rfl, rfl, rfl⟩
    · exact (hsettles.granted _ rfl rfl rfl).2.2
  · exact (hraise a 0 [(9, timeout)]).2
  · exact ((htry (a.raising true) 0 [(9, timeout)] rfl rfl).2).trans rfl

end Lifecycle

end DistLock
