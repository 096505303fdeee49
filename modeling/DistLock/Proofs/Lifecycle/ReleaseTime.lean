import DistLock.Proofs.Lifecycle.Acquisition
import DistLock.Proofs.Lifecycle.ReleaseOutcome
import DistLock.Proofs.Renewal.Stopping

/-!
# How long a release takes

A release first stops the renewer and then makes one call. `TimedRelease` is
the owner of a session with a clock, from the moment it begins a release: time
passes only while nobody can go on, the replies to the call come when the
prospect says, and the replies to a renewal come when they come, or never.

* Until the call is sent the clock stands, and from then on the release is
  where its invocation has it (`Stands`, `stands_of_reachable`), so it
  returns when the last reply to that arrives.
* It does return: as long as it has not, it gets there (`reaches_end`).

Only a renewer that broke down before is met differently: the release breaks
down with it, at once and without a call. With that, the time of a release
is the time of its call (`TakesOnlyItsCall`).
-/

namespace DistLock

/-- The first `n` calls of an invocation that gives a lock back. -/
def Invocation.unlocks (i : Invocation UnlockRequest) (o : Prospect UnlockResponse)
    (start n : Nat) : List (Nat × Request) :=
  (i.attempts o start n).map fun call => (call.1, .unlock call.2)

/-- The renewer of the session broke down, and nobody has taken that over. -/
def Session.isBroken (s : Session) : Bool := s.renewer.any (·.isBroken)

/-! ## A release and its clock -/

/-- A session whose lock is given back, with a clock: what was sent and what
the owner was told. -/
structure TimedRelease where
  now : Nat
  life : Lifecycle
  calls : List (Nat × Request) := []
  told : List (Nat × OwnerResult) := []

namespace TimedRelease

/-- Something happens. -/
def event (c : TimedRelease) (e : Event) : TimedRelease :=
  let s := c.life.step c.now e
  { now := c.now
    life := s.next
    calls := c.calls ++ s.sent.toList.map (c.now, ·)
    told := c.told ++ s.result.toList.map (c.now, ·) }

/-- When the reply to the call under way arrives. -/
def answeredAt (o : Prospect UnlockResponse) (c : TimedRelease) : Option Nat :=
  if c.life.isWaiting .holder then
    c.calls.getLast?.map fun call => call.1 + o.delay (c.calls.length - 1)
  else none

/-- The reply to the last call arrives. -/
def answer (o : Prospect UnlockResponse) (c : TimedRelease) : TimedRelease :=
  c.event (.answer (.unlocked (o.reply (c.calls.length - 1))))

/-- What can happen next. -/
inductive Next (o : Prospect UnlockResponse) (c : TimedRelease) : TimedRelease → Prop
  /-- Time passes, but not beyond what is due. -/
  | passes {later} : c.now ≤ later →
      (∀ w t, c.life.dueAt w = some t → later ≤ max c.now t) →
      (∀ t, c.answeredAt o = some t → later ≤ max c.now t) → Next o c { c with now := later }
  | wakes (w : Worker) : Next o c (c.event (.wake w))
  | refreshed (reply) : Next o c (c.event (.answer (.refreshed reply)))
  | answered : c.answeredAt o = some c.now → Next o c (c.answer o)

/-- The owner of a session begins a release. -/
def begun (start : Nat) (s : Session) : TimedRelease :=
  event { now := start, life := .owned s .resting } .release

/-- What can come of a release. -/
def Reachable (o : Prospect UnlockResponse) (start : Nat) (s : Session) : TimedRelease → Prop :=
  Relation.ReflTransGen (Next o) (begun start s)

/-! ## Where a release stands -/

/-- Attempt `j` of the call is under way. -/
def inCall (i : Invocation UnlockRequest) (o : Prospect UnlockResponse) (start : Nat) (s : Session)
    (renewal : Option ClientError) (j now : Nat) : TimedRelease :=
  ⟨now, .owned s (.unlocking renewal ⟨i.repeated j, none⟩), i.unlocks o start (j + 1), []⟩

/-- Attempt `j` of the call is to be repeated. -/
def inPause (i : Invocation UnlockRequest) (o : Prospect UnlockResponse) (start : Nat)
    (s : Session) (renewal : Option ClientError) (j now : Nat) : TimedRelease :=
  ⟨now, .owned s (.unlocking renewal
      ⟨i.repeated (j + 1), some (o.dueAt start i.policy.pause (j + 1))⟩),
    i.unlocks o start (j + 1), []⟩

/-- Where the release of the lock of `s₀` stands whose call is `i`. -/
inductive Stands (s₀ : Session) (i : Invocation UnlockRequest) (o : Prospect UnlockResponse)
    (start : Nat) : TimedRelease → Prop
  /-- It waits for the end of the renewer. -/
  | stopping {s x r} : s.handle = some x → i = unlockInvocation s.policy ⟨x.name, x.secret⟩ →
      s.renewer = some r → r.cancelled = true → r.isBroken = false →
      Stands s₀ i o start ⟨start, .owned s .stopping, [], []⟩
  | calling {s renewal j now} : s.renewer = none → i.Repeats o j →
      o.dueAt start i.policy.pause j ≤ now → now ≤ o.answeredAt start i.policy.pause j →
      Stands s₀ i o start (inCall i o start s renewal j now)
  | pausing {s renewal j now} : s.renewer = none → i.Repeats o (j + 1) →
      o.answeredAt start i.policy.pause j ≤ now →
      now ≤ o.dueAt start i.policy.pause (j + 1) →
      Stands s₀ i o start (inPause i o start s renewal j now)
  /-- It has returned. -/
  | returned {s k outcome now} : s.renewer = none → i.Repeats o k → i.IsLast o k →
      o.answeredAt start i.policy.pause k ≤ now →
      Stands s₀ i o start
        ⟨now, .owned s .resting, i.unlocks o start (k + 1),
          [(o.answeredAt start i.policy.pause k, .released outcome)]⟩
  /-- It broke down with the renewer. -/
  | broke {s r text now} : s₀.isBroken = true → s.renewer = some r → r.isAlive = false →
      Stands s₀ i o start ⟨now, .owned s .resting, [], [(start, .released (.crash text))]⟩

/-! ## Calls and replies -/

variable {s₀ s t : Session} {i : Invocation UnlockRequest} {o : Prospect UnlockResponse}
  {start now j k : Nat} {c c' : TimedRelease} {x : LockHandle} {renewal : Option ClientError}
  {reply : Reply UnlockResponse} {r : Renewer}

theorem event_of_step {e : Event} {step : Step Lifecycle OwnerResult}
    (h : c.life.step c.now e = step) : c.event e =
      ⟨c.now, step.next, c.calls ++ step.sent.toList.map (c.now, ·),
        c.told ++ step.result.toList.map (c.now, ·)⟩ := by
  subst h
  rfl

/-- An event that changes nothing. -/
theorem event_of_stay {e : Event} (h : c.life.step c.now e = .stay c.life) : c.event e = c := by
  rw [event_of_step h]
  simp [Step.stay]

theorem unlocks_concat (n : Nat) : i.unlocks o start (n + 1) =
    i.unlocks o start n ++ [(o.dueAt start i.policy.pause n, .unlock i.request)] := by
  unfold Invocation.unlocks
  rw [Invocation.attempts_concat, List.map_append]
  rfl

@[simp] theorem length_unlocks (n : Nat) : (i.unlocks o start n).length = n := by
  unfold Invocation.unlocks
  rw [List.length_map, Invocation.length_attempts]

/-- The reply to an attempt arrives as long after it as that takes. -/
theorem answeredAt_inCall :
    answeredAt o (inCall i o start s renewal j now) =
      some (o.answeredAt start i.policy.pause j) := by
  have hwaits : (inCall i o start s renewal j now).life.isWaiting .holder = true := rfl
  unfold answeredAt
  rw [if_pos hwaits, Prospect.answeredAt_eq]
  simp only [inCall, unlocks_concat, List.getLast?_append, List.length_append, length_unlocks]
  rfl

/-- A reply after which the call is repeated begins a pause. -/
theorem answer_inCall_more (hmore : i.Repeats o (j + 1)) :
    answer o (inCall i o start s renewal j (o.answeredAt start i.policy.pause j)) =
      inPause i o start s renewal j (o.answeredAt start i.policy.pause j) := by
  obtain ⟨htransient, hroom⟩ := hmore j (Nat.lt_succ_self j)
  obtain ⟨log, hsettle⟩ := Invocation.settle_again (i := i.repeated j) htransient hroom
  have hindex : (i.unlocks o start (j + 1)).length - 1 = j := by
    rw [length_unlocks]
    rfl
  have hdue : o.dueAt start i.policy.pause (j + 1) =
      o.answeredAt start i.policy.pause j + i.policy.pause :=
    o.dueAt_after_answer start i.policy.pause j
  have hstep : (Lifecycle.owned s (.unlocking renewal ⟨i.repeated j, none⟩)).step
        (o.answeredAt start i.policy.pause j) (.answer (.unlocked (o.reply j))) =
      { next := .owned s (.unlocking renewal
          ⟨i.repeated (j + 1), some (o.dueAt start i.policy.pause (j + 1))⟩)
        log } := by
    rw [hdue, ← Invocation.repeated_next]
    simp only [Lifecycle.step, Activity.answer, Run.isWaiting, Run.answer, hsettle]
    rfl
  unfold answer inCall inPause
  rw [hindex, event_of_step hstep]
  simp

/-- Any other reply ends the release. -/
theorem answer_inCall_last (start : Nat) (s : Session) (renewal : Option ClientError)
    (hlast : i.IsLast o j) :
    ∃ s' outcome, s'.renewer = s.renewer ∧
      answer o (inCall i o start s renewal j (o.answeredAt start i.policy.pause j)) =
        ⟨o.answeredAt start i.policy.pause j, .owned s' .resting, i.unlocks o start (j + 1),
          [(o.answeredAt start i.policy.pause j, .released outcome)]⟩ := by
  obtain ⟨log, hsettle⟩ := Invocation.settle_finished (i := i.repeated j) hlast
  have hindex : (i.unlocks o start (j + 1)).length - 1 = j := by
    rw [length_unlocks]
    rfl
  obtain ⟨s', log', outcome, hsame, hstep⟩ : ∃ s' log outcome, s'.renewer = s.renewer ∧
      (Lifecycle.owned s (.unlocking renewal ⟨i.repeated j, none⟩)).step
          (o.answeredAt start i.policy.pause j) (.answer (.unlocked (o.reply j))) =
        { next := .owned s' .resting, log, result := some (.released outcome) } := by
    by_cases hcrash : ∃ text, (o.reply j).outcome = .crash text
    · obtain ⟨text, htext⟩ := hcrash
      refine ⟨s, log ++ [], .crash text, rfl, ?_⟩
      simp only [Lifecycle.step, Activity.answer, Run.isWaiting, Run.answer, hsettle, htext,
        Session.concludeRelease]
      rfl
    · have hcalm : ∀ text, (o.reply j).outcome ≠ .crash text := by
        intro text htext
        exact hcrash ⟨text, htext⟩
      obtain ⟨more, outcome, hconclude⟩ :=
        s.concludeRelease_eq (i.repeated j).request.name renewal hcalm
      refine ⟨s.markReleased, log ++ more, outcome, rfl, ?_⟩
      simp only [Lifecycle.step, Activity.answer, Run.isWaiting, Run.answer, hsettle, Run.request,
        hconclude]
      rfl
  refine ⟨s', outcome, hsame, ?_⟩
  unfold answer inCall
  rw [hindex, event_of_step hstep]
  simp

/-- When the pause is over, the call is made again. -/
theorem wake_inPause :
    event (inPause i o start s renewal j (o.dueAt start i.policy.pause (j + 1)))
        (.wake .holder) =
      inCall i o start s renewal (j + 1) (o.dueAt start i.policy.pause (j + 1)) := by
  have hstep : (Lifecycle.owned s (.unlocking renewal
        ⟨i.repeated (j + 1), some (o.dueAt start i.policy.pause (j + 1))⟩)).step
          (o.dueAt start i.policy.pause (j + 1)) (.wake .holder) =
      { next := .owned s (.unlocking renewal ⟨i.repeated (j + 1), none⟩)
        sent := some (.unlock i.request) } := by
    simp only [Lifecycle.step, Activity.wake, Run.resume?, Nat.le_refl, if_true]
    rfl
  unfold inPause inCall
  rw [event_of_step hstep, unlocks_concat (j + 1)]
  rfl

/-! ## Looking for the end of the renewer -/

/-- The call that gives the lock back begins. -/
theorem inCall_zero (hi : i = unlockInvocation t.policy ⟨x.name, x.secret⟩)
    (renewal : Option ClientError) :
    inCall i o start t.forgetRenewer renewal 0 start =
      ⟨start, .owned t.forgetRenewer (.unlocking renewal (t.unlockRun x)),
        [(start, .unlock ⟨x.name, x.secret⟩)], []⟩ := by
  unfold inCall
  rw [unlocks_concat, Prospect.dueAt_zero, Invocation.repeated_zero, hi]
  rfl

theorem stands_zero (hnone : s.renewer = none) (renewal : Option ClientError) :
    Stands s₀ i o start (inCall i o start s renewal 0 start) := by
  refine .calling hnone (i.repeats_zero o) ?_ ?_
  · rw [Prospect.dueAt_zero]
  · exact o.start_le_answeredAt _ _ _

/-- An owner whose renewer has ended, or who has none, sends
its call at once. -/
theorem event_of_over (o : Prospect UnlockResponse) {l : Lifecycle} {e : Event}
    (hx : t.handle = some x)
    (hi : i = unlockInvocation t.policy ⟨x.name, x.secret⟩) (hover : RenewalOver t.renewer)
    (hstep : l.step start e = t.awaitRenewer) :
    ∃ renewal, event ⟨start, l, [], []⟩ e =
      inCall i o start t.forgetRenewer renewal 0 start := by
  cases hr : t.renewer with
  | none =>
      have hforget : t.forgetRenewer = t := by
        unfold Session.forgetRenewer
        rw [← hr]
      have hsend : t.awaitRenewer = t.sendUnlock none := by
        simp only [Session.awaitRenewer, hr]
      rw [hsend, Lifecycle.sendUnlock_of_handle hx] at hstep
      refine ⟨none, ?_⟩
      rw [event_of_step hstep, inCall_zero hi, hforget]
      rfl
  | some r =>
      obtain ⟨hrunning, hbroken⟩ := hover r hr
      obtain ⟨error, hresult⟩ : ∃ error : Option ClientError,
          r.join.result = some (error.elim (.ok ()) .error) := by
        rcases Renewer.join_over hrunning hbroken with hok | ⟨e, he⟩
        · exact ⟨none, hok⟩
        · exact ⟨some e, he⟩
      rw [Lifecycle.awaitRenewer_of_ended hr hresult,
        Lifecycle.sendUnlock_of_handle (t := t.forgetRenewer) hx] at hstep
      refine ⟨error, ?_⟩
      rw [event_of_step hstep, inCall_zero hi]
      rfl

/-- An owner that looks for the end of its renewer waits for it, sends its
call, or breaks down with it; no time passes. -/
theorem stands_of_awaitRenewer {l : Lifecycle} {e : Event} (hx : t.handle = some x)
    (hi : i = unlockInvocation t.policy ⟨x.name, x.secret⟩) (hc : RenewalCancelled t.renewer)
    (hb : t.isBroken = true → s₀.isBroken = true) (hstep : l.step start e = t.awaitRenewer) :
    Stands s₀ i o start (event ⟨start, l, [], []⟩ e) := by
  by_cases hover : RenewalOver t.renewer
  · obtain ⟨renewal, hcall⟩ := event_of_over o hx hi hover hstep
    rw [hcall]
    exact stands_zero rfl renewal
  obtain ⟨r, hr, hbusy⟩ : ∃ r, t.renewer = some r ∧
      ¬ (r.isRunning = false ∧ r.isBroken = false) := by
    simpa [RenewalOver] using hover
  cases hbroken : r.isBroken with
  | true =>
      obtain ⟨text, hresult, hnext⟩ := Renewer.join_broken hbroken
      have hbreak : t.awaitRenewer =
          { next := .owned { t with renewer := some { r with joined := true } } .resting
            result := some (.released (.crash text)) } := by
        simp only [Session.awaitRenewer, hr, hresult, hnext]
      have hstart : s₀.isBroken = true := by
        apply hb
        simp [Session.isBroken, hr, hbroken]
      have halive : r.isAlive = false := Renewer.isAlive_false_of_isBroken hbroken
      rw [event_of_step hstep, hbreak]
      exact .broke hstart rfl halive
  | false =>
      have hrunning : r.isRunning = true := by
        simpa [hbroken] using hbusy
      have hwait : t.awaitRenewer = .stay (.owned t .stopping) := by
        simp only [Session.awaitRenewer, hr, Renewer.join_running hrunning, Step.stay]
      rw [event_of_step hstep, hwait]
      exact .stopping hx hi hr (hc r hr) hbroken

/-- The release begins. -/
theorem stands_begun (howes : s.owesUnlock = true) (hx : s.handle = some x)
    (hi : i = unlockInvocation s.policy ⟨x.name, x.secret⟩) :
    Stands s i o start (begun start s) := by
  refine stands_of_awaitRenewer (t := s.beginRelease) hx hi (Lifecycle.renewalCancelled_map _) ?_
    (Lifecycle.step_of_awaitsEnd (.first howes))
  intro hbroken
  obtain ⟨r, hr, hbroken⟩ := (Option.any_eq_true _ _).1 hbroken
  obtain ⟨r₀, hr₀, rfl⟩ := Option.map_eq_some_iff.1 hr
  simpa [Session.isBroken, hr₀] using hbroken

/-! ## What happens next -/

/-- The owner may go on. -/
theorem Stands.holder (h : Stands s₀ i o start c) :
    Stands s₀ i o start (c.event (.wake .holder)) := by
  cases h with
  | @stopping s x r hx hi hr hc hb =>
      refine stands_of_awaitRenewer hx hi ?_ ?_ (Lifecycle.step_of_awaitsEnd .again)
      · intro r' hr'
        obtain rfl := Option.some.inj (hr.symm.trans hr')
        exact hc
      · intro hbroken
        simp [Session.isBroken, hr, hb] at hbroken
  | calling hnone hrep hle hdue =>
      rw [event_of_stay rfl]
      exact .calling hnone hrep hle hdue
  | @pausing s renewal j now hnone hrep hle hdue =>
      by_cases hearly : now < o.dueAt start i.policy.pause (j + 1)
      · have hstay : (inPause i o start s renewal j now).life.step now (.wake .holder) =
            .stay (inPause i o start s renewal j now).life := by
          simp [inPause, Lifecycle.step, Activity.wake, Run.resume?, Nat.not_le_of_lt hearly]
        rw [event_of_stay hstay]
        exact .pausing hnone hrep hle hdue
      · -- the next attempt
        obtain rfl : now = o.dueAt start i.policy.pause (j + 1) := by omega
        rw [wake_inPause]
        exact .calling hnone hrep (Nat.le_refl _) (o.dueAt_le_answeredAt _ _ _)
  | returned hnone hrep hlast hle =>
      rw [event_of_stay rfl]
      exact .returned hnone hrep hlast hle
  | broke hstart hr hover =>
      rw [event_of_stay rfl]
      exact .broke hstart hr hover

/-- A turn of a renewer that was asked to end, be it that it goes on or that
a reply arrives. -/
theorem event_stopping {e : Event} {f : Renewer → Step Renewer Unit} (hr : s.renewer = some r)
    (hstep : ∀ l : Lifecycle, l.step start e = l.onRenewer f) (hsent : (f r).sent = none) :
    event ⟨start, .owned s .stopping, [], []⟩ e =
      ⟨start, .owned { s with renewer := some (f r).next } .stopping, [], []⟩ := by
  have hturn : (Lifecycle.owned s .stopping).step start e =
      { next := .owned { s with renewer := some (f r).next } .stopping, log := (f r).log } := by
    rw [hstep]
    simp only [Lifecycle.onRenewer, Lifecycle.renewer?, hr, Step.lift, Step.silent, hsent]
    rfl
  rw [event_of_step hturn]
  rfl

/-- A turn of the renewer leaves the release where it is. -/
theorem Stands.onRenewer (h : Stands s₀ i o start c) {e : Event} {f : Renewer → Step Renewer Unit}
    (hstep : ∀ l : Lifecycle, l.step c.now e = l.onRenewer f)
    (hturn : ∀ r : Renewer, r.cancelled = true → r.isBroken = false →
      (f r).next.cancelled = true ∧ (f r).next.isBroken = false ∧ (f r).sent = none)
    (hover : ∀ r : Renewer, r.isAlive = false → f r = .stay r) :
    Stands s₀ i o start (c.event e) := by
  have hquiet {l : Lifecycle} (hl : l.renewer? = none) : l.step c.now e = .stay l := by
    rw [hstep]
    simp only [Lifecycle.onRenewer, hl]
  cases h with
  | @stopping s x r hx hi hr hc hb =>
      obtain ⟨hc', hb', hsent⟩ := hturn r hc hb
      rw [event_stopping hr hstep hsent]
      exact .stopping hx hi rfl hc' hb'
  | calling hnone hrep hle hdue =>
      rw [event_of_stay (hquiet hnone)]
      exact .calling hnone hrep hle hdue
  | pausing hnone hrep hle hdue =>
      rw [event_of_stay (hquiet hnone)]
      exact .pausing hnone hrep hle hdue
  | returned hnone hrep hlast hle =>
      rw [event_of_stay (hquiet hnone)]
      exact .returned hnone hrep hlast hle
  | @broke s r text now hstart hr halive =>
      have hsame : { s with renewer := some r } = s := by
        rw [← hr]
      rw [event_of_stay]
      · exact .broke hstart hr halive
      · rw [hstep]
        simp only [Lifecycle.onRenewer, Lifecycle.renewer?, hr, hover r halive, Step.lift,
          Step.silent, Step.stay, Lifecycle.setRenewer, hsame]

theorem wake_sent_none (hc : r.cancelled = true) (now : Nat) : (r.wake now).sent = none := by
  cases hq : (r.wake now).sent with
  | none => rfl
  | some q => simp [(Renewer.wake_sent hq).1] at hc

theorem Stands.wake (h : Stands s₀ i o start c) (w : Worker) :
    Stands s₀ i o start (c.event (.wake w)) := by
  cases w with
  | holder => exact h.holder
  | renewer =>
      refine h.onRenewer (f := (·.wake c.now)) (fun l => rfl) ?_ ?_
      · intro r hc hb
        exact ⟨Renewer.wake_flags.1.trans hc, Renewer.wake_isBroken hb, wake_sent_none hc _⟩
      · intro r halive
        exact Renewer.wake_over halive

theorem Stands.refreshed (h : Stands s₀ i o start c) (reply : Reply LockResponse) :
    Stands s₀ i o start (c.event (.answer (.refreshed reply))) := by
  refine h.onRenewer (f := (·.answer c.now reply)) (fun l => rfl) ?_ ?_
  · intro r hc hb
    exact ⟨Renewer.answer_flags.1.trans hc, Renewer.answer_isBroken hc hb, Renewer.answer_sent⟩
  · intro r halive
    exact Renewer.answer_over halive

/-- Time passes up to what is due; before the call is sent, somebody
can always go on. -/
theorem Stands.passes {later : Nat} (h : Stands s₀ i o start c) (hle : c.now ≤ later)
    (hdue : ∀ w t, c.life.dueAt w = some t → later ≤ max c.now t)
    (hanswer : ∀ t, c.answeredAt o = some t → later ≤ max c.now t) :
    Stands s₀ i o start { c with now := later } := by
  cases h with
  | @stopping s x r hx hi hr hc hb =>
      have hlater : later ≤ max start 0 := by
        cases halive : r.isAlive with
        | true =>
            apply hdue .renewer
            simp [Lifecycle.dueAt, Lifecycle.renewer?, hr, Renewer.dueAt, halive, hc]
        | false =>
            apply hdue .holder
            simp [Lifecycle.dueAt, Activity.dueAt, hr, halive]
      replace hle : start ≤ later := hle
      obtain rfl : later = start := by omega
      exact .stopping hx hi hr hc hb
  | @calling s renewal j now hnone hrep hsince hnow =>
      have hlater : later ≤ max now _ := hanswer _ answeredAt_inCall
      rw [Nat.max_eq_right hnow] at hlater
      exact .calling hnone hrep (Nat.le_trans hsince hle) hlater
  | @pausing s renewal j now hnone hrep hsince hnow =>
      have hlater : later ≤ max now _ := hdue .holder _ rfl
      rw [Nat.max_eq_right hnow] at hlater
      exact .pausing hnone hrep (Nat.le_trans hsince hle) hlater
  | returned hnone hrep hlast hsince =>
      exact .returned hnone hrep hlast (Nat.le_trans hsince hle)
  | broke hstart hr halive => exact .broke hstart hr halive

/-- The reply to an attempt begins a pause, or ends the release. -/
theorem Stands.answer (h : Stands s₀ i o start c) (hnow : c.answeredAt o = some c.now) :
    Stands s₀ i o start (c.answer o) := by
  cases h with
  | @calling s renewal j now hnone hrep hsince hdue =>
      obtain rfl : o.answeredAt start i.policy.pause j = now :=
        Option.some.inj (answeredAt_inCall.symm.trans hnow)
      rcases hrep.more_or_last with hmore | hlast
      · rw [answer_inCall_more hmore]
        exact .pausing hnone hmore (Nat.le_refl _) (o.answeredAt_le_dueAt _ _ _)
      · obtain ⟨s', outcome, hsame, hend⟩ := answer_inCall_last start s renewal hlast
        rw [hend]
        exact .returned (hsame.trans hnone) hrep hlast (Nat.le_refl _)
  | stopping _ _ _ _ _ | pausing _ _ _ _ | returned _ _ _ _ | broke _ _ _ => cases hnow

/-- Wherever a release gets, it is where its call has it. -/
theorem stands_of_reachable (howes : s.owesUnlock = true) (hx : s.handle = some x)
    (hi : i = unlockInvocation s.policy ⟨x.name, x.secret⟩) (h : c.Reachable o start s) :
    Stands s i o start c := by
  induction h with
  | refl => exact stands_begun howes hx hi
  | tail _ hnext ih =>
      cases hnext with
      | passes hle hdue hanswer => exact ih.passes hle hdue hanswer
      | wakes w => exact ih.wake w
      | refreshed reply => exact ih.refreshed reply
      | answered hnow => exact ih.answer hnow

/-! ## It returns -/

/-- The owner can be told what came of its release. -/
def Returns (o : Prospect UnlockResponse) (c : TimedRelease) : Prop :=
  ∃ c', Relation.ReflTransGen (Next o) c c' ∧ c'.told ≠ []

theorem Returns.step (hnext : Next o c c') (h : Returns o c') : Returns o c := by
  obtain ⟨c'', hrun, htold⟩ := h
  exact ⟨c'', .head hnext hrun, htold⟩

theorem dueAt_inCall (hnone : s.renewer = none) (w : Worker) :
    (inCall i o start s renewal j now).life.dueAt w = none := by
  cases w with
  | holder => rfl
  | renewer => simp [inCall, Lifecycle.dueAt, Lifecycle.renewer?, hnone]

/-- An attempt under way gets to its reply. -/
theorem Returns.of_reply (hnone : s.renewer = none)
    (hnow : now ≤ o.answeredAt start i.policy.pause j)
    (h : Returns o (answer o (inCall i o start s renewal j
      (o.answeredAt start i.policy.pause j)))) :
    Returns o (inCall i o start s renewal j now) := by
  have hpass : Next o (inCall i o start s renewal j now)
      (inCall i o start s renewal j (o.answeredAt start i.policy.pause j)) := by
    refine .passes hnow ?_ ?_
    · intro w t hdue
      rw [dueAt_inCall hnone] at hdue
      cases hdue
    · intro t hanswer
      obtain rfl := Option.some.inj (answeredAt_inCall.symm.trans hanswer)
      exact Nat.le_max_right _ _
  exact .step hpass (.step (.answered answeredAt_inCall) h)

/-- A pause gets to the next attempt. -/
theorem Returns.of_pause (hnone : s.renewer = none)
    (hnow : now ≤ o.dueAt start i.policy.pause (j + 1))
    (h : Returns o (inCall i o start s renewal (j + 1)
      (o.dueAt start i.policy.pause (j + 1)))) :
    Returns o (inPause i o start s renewal j now) := by
  have hpass : Next o (inPause i o start s renewal j now)
      (inPause i o start s renewal j (o.dueAt start i.policy.pause (j + 1))) := by
    refine .passes hnow ?_ ?_
    · intro w t hdue
      cases w with
      | holder =>
          obtain rfl := Option.some.inj hdue
          exact Nat.le_max_right _ _
      | renewer => simp [inPause, Lifecycle.dueAt, Lifecycle.renewer?, hnone] at hdue
    · intro t hanswer
      cases hanswer
  have hwake : Next o (inPause i o start s renewal j (o.dueAt start i.policy.pause (j + 1)))
      (inCall i o start s renewal (j + 1) (o.dueAt start i.policy.pause (j + 1))) := by
    rw [← wake_inPause]
    exact .wakes .holder
  exact .step hpass (.step hwake h)

/-- The induction is on the attempts that are left. -/
theorem returns_inCall (hrep : i.Repeats o k) (hlast : i.IsLast o k) (hnone : s.renewer = none)
    (hj : j ≤ k) (hnow : now ≤ o.answeredAt start i.policy.pause j) :
    Returns o (inCall i o start s renewal j now) := by
  induction hleft : k - j generalizing j now with
  | zero =>
      obtain rfl : j = k := by omega
      apply Returns.of_reply hnone hnow
      obtain ⟨s', outcome, -, hend⟩ := answer_inCall_last start s renewal hlast
      rw [hend]
      exact ⟨_, .refl, by simp⟩
  | succ left ih =>
      apply Returns.of_reply hnone hnow
      have hmore : i.Repeats o (j + 1) := by
        intro l hl
        exact hrep l (by omega)
      rw [answer_inCall_more hmore]
      apply Returns.of_pause hnone (o.answeredAt_le_dueAt _ _ _)
      exact ih (by omega) (o.dueAt_le_answeredAt _ _ _) (by omega)

/-- An invocation is not repeated after its last attempt. -/
theorem le_of_isLast (hlast : i.IsLast o k) (hrep : i.Repeats o j) : j ≤ k := by
  by_cases hle : j ≤ k
  · exact hle
  · obtain ⟨htransient, hroom⟩ := hrep k (by omega)
    rw [hlast htransient] at hroom
    cases hroom

/-- A release that has not returned gets there, once its call has
a last attempt. -/
theorem reaches_end (hrep : i.Repeats o k) (hlast : i.IsLast o k) (h : Stands s₀ i o start c)
    (htold : c.told = []) : Returns o c := by
  cases h with
  | @stopping s x r hx hi hr hc hb =>
      -- the turn of the renewer ends it, and then the turn of the owner
      -- sends the call
      have hover : (r.wake start).next.isAlive = false := Renewer.wake_cancelled hc
      have hend : RenewalOver (some (r.wake start).next) := by
        intro r' hr'
        obtain rfl := Option.some.inj hr'
        refine ⟨?_, Renewer.wake_isBroken hb⟩
        rw [Renewer.isRunning, hover]
        rfl
      have hturn : event ⟨start, .owned s .stopping, [], []⟩ (.wake .renewer) =
          ⟨start, .owned { s with renewer := some (r.wake start).next } .stopping, [], []⟩ :=
        event_stopping (f := (·.wake start)) hr (fun l => rfl) (wake_sent_none hc start)
      obtain ⟨renewal, hcall⟩ := event_of_over o
        (t := { s with renewer := some (r.wake start).next }) hx hi hend
        (Lifecycle.step_of_awaitsEnd .again)
      refine .step (.wakes .renewer) (.step (.wakes .holder) ?_)
      rw [hturn, hcall]
      exact returns_inCall hrep hlast rfl (Nat.zero_le k) (o.start_le_answeredAt _ _ _)
  | calling hnone hrep' _ hnow =>
      exact returns_inCall hrep hlast hnone (le_of_isLast hlast hrep') hnow
  | pausing hnone hrep' _ hnow =>
      apply Returns.of_pause hnone hnow
      exact returns_inCall hrep hlast hnone (le_of_isLast hlast hrep') (o.dueAt_le_answeredAt _ _ _)
  | returned _ _ _ _ | broke _ _ _ => cases htold

/-! ## The time it takes -/

/-- A release takes the time of its call and no other. -/
structure TakesOnlyItsCall (o : Prospect UnlockResponse) (start : Nat) (s : Session)
    (i : Invocation UnlockRequest) : Prop where
  /-- No time passes before the call is sent. -/
  atOnce : ∀ c : TimedRelease, c.Reachable o start s → c.told = [] → c.calls = [] → c.now = start
  /-- It returns with the last reply to the call, after the attempts and the
  pauses between them, each of which lasts as long as its policy wants, and
  no longer than the longest sleep. -/
  lasts : s.isBroken = false → ∀ c : TimedRelease, c.Reachable o start s → ∀ p ∈ c.told,
    ∃ k, i.EndsWith o start k ∧ c.calls = i.unlocks o start (k + 1) ∧
      p.1 = start + ∑ j ∈ Finset.range (k + 1), o.delay j +
        k * min i.policy.interval longestSleep
  /-- As long as it has not returned, it gets there. -/
  ends : ∀ k, i.EndsWith o start k → ∀ c : TimedRelease, c.Reachable o start s → c.told = [] →
    c.Returns o
  /-- With a renewer that broke down, it breaks down at once. -/
  breaks : s.isBroken = true → (begun start s).calls = [] ∧
    ∃ text, (begun start s).told = [(start, .released (.crash text))]

theorem begun_of_isBroken (howes : s.owesUnlock = true) (hbroken : s.isBroken = true)
    (start : Nat) : (begun start s).calls = [] ∧
      ∃ text, (begun start s).told = [(start, .released (.crash text))] := by
  obtain ⟨r, hr, hb⟩ := (Option.any_eq_true _ _).1 hbroken
  have hcancelled : s.beginRelease.renewer = some r.cancel := Option.map_eq_some_iff.2 ⟨r, hr, rfl⟩
  obtain ⟨text, hresult, -⟩ := Renewer.join_broken (r := r.cancel) hb
  have hstep : (Lifecycle.owned s .resting).step start .release =
      { next := .owned { s.beginRelease with renewer := some r.cancel.join.next } .resting
        result := some (.released (.crash text)) } := by
    rw [Lifecycle.step_of_awaitsEnd (.first howes)]
    simp only [Session.awaitRenewer, hcancelled, hresult]
  unfold begun
  rw [event_of_step hstep]
  exact ⟨rfl, text, rfl⟩

theorem takesOnlyItsCall (howes : s.owesUnlock = true) (hx : s.handle = some x)
    (o : Prospect UnlockResponse) (start : Nat) :
    TakesOnlyItsCall o start s (unlockInvocation s.policy ⟨x.name, x.secret⟩) where
  atOnce := by
    intro c hc htold hcalls
    cases stands_of_reachable howes hx rfl hc with
    | stopping _ _ _ _ _ => rfl
    | calling _ _ _ _ | pausing _ _ _ _ =>
        exact absurd hcalls (by simp [inCall, inPause, unlocks_concat])
    | returned _ _ _ _ | broke _ _ _ => cases htold
  lasts := by
    intro hbroken c hc p hp
    cases stands_of_reachable howes hx rfl hc with
    | @returned s k outcome now _ hrep hlast _ =>
        obtain rfl := List.mem_singleton.1 hp
        exact ⟨k, hrep.endsWith hlast, rfl, rfl⟩
    | broke hstart _ _ =>
        rw [hbroken] at hstart
        cases hstart
    | stopping _ _ _ _ _ | calling _ _ _ _ | pausing _ _ _ _ => cases hp
  ends := by
    intro k hends c hc htold
    obtain ⟨hrep, hlast⟩ := hends.repeats
    exact reaches_end hrep hlast (stands_of_reachable howes hx rfl hc) htold
  breaks := fun hbroken => begun_of_isBroken howes hbroken start

/-- **A release does not wait for a renewal.** Whatever a renewer is doing,
every stop of it is over when it began, be it the first or one after others
that returned or were abandoned. So a release of the lock that a session
holds, whatever the session has been through, takes the time of the call
that gives the lock back. -/
theorem release_never_waits :
    (∀ (r : Renewer) (start : Nat) (h : Halt), h.Reachable start r →
      (∀ since, h.since = some since → since = h.now ∧ ∃ outcome, h.wake.poll.since = none ∧
        h.wake.poll.returned = h.returned ++ [(h.now, h.now, outcome)]) ∧
      ∀ p ∈ h.returned, p.1 = p.2.1) ∧
    ∀ (policy : RetryPolicy) (autoRefresh : Bool) (es : List (Nat × Event)) (s : Session),
      (Lifecycle.new policy autoRefresh).after es = .owned s .resting → s.owesUnlock = true →
      ∃ grant, granted ((Lifecycle.new policy autoRefresh).moments es) = some grant ∧
        ∀ (o : Prospect UnlockResponse) (start : Nat),
          TakesOnlyItsCall o start s (unlockInvocation s.policy grant.unlockRequest) := by
  constructor
  · intro r start h hreach
    have hprompt := Halt.prompt_of_reachable hreach
    refine ⟨?_, hprompt.returned⟩
    intro since hs
    obtain ⟨outcome, hover, hreturned⟩ := hprompt.returns hs
    obtain rfl := (hprompt.waits since hs).1
    exact ⟨rfl, outcome, hover, hreturned⟩
  · intro policy autoRefresh es s hafter howes
    have hc := Lifecycle.consistent_run policy autoRefresh es
    rw [hafter] at hc
    obtain ⟨-, grant, x, hgrant, hx, hshow⟩ := hc.shows_of_owes howes
    refine ⟨grant, hgrant, ?_⟩
    intro o start
    rw [← hshow.unlockRequest]
    exact takesOnlyItsCall howes hx o start

/-- A run in which the lease of a lock is being renewed. -/
def renewingRun : List (Nat × Event) :=
  grantedRun ++ [(0, .wake .renewer), (10000, .wake .renewer)]

/-- The renewer at the end of that run. -/
def renewing : Renewer :=
  let r : Renewer := { policy := {}, name := "job-42", key := "key-1", lease := 20 }
  { r with phase := .renewing, stage := .refreshing (.start r.invocation) }

/-- The session at the end of that run. -/
def heldMeanwhile : Session :=
  { policy := {}
    state := .held
    handle := some (.held "job-42" "key-1" 0)
    renewer := some renewing }

/-- A service that takes a lock back when it is asked the second time. -/
def secondReturn : Prospect UnlockResponse where
  delay _ := 3
  reply j :=
    if j = 0 then .failure { code := .unavailable }
    else .response { unlocked := true, name := "job-42" }

/-- A renewal that is never answered holds nothing up: a stop takes no
time, and the release takes two attempts of three milliseconds each and the
pause between them. -/
theorem release_never_waits_renewing :
    (Lifecycle.new {} true).after renewingRun = .owned heldMeanwhile .resting ∧
      (∃ h : Halt, h.Reachable 10001 renewing ∧ h.returned = [(10001, 10001, .ok ())] ∧
        ∀ p ∈ h.returned, p.1 = p.2.1) ∧
      ∃ c : TimedRelease, c.Reachable secondReturn 10001 heldMeanwhile ∧
        c.calls.length = 2 ∧ ∃ told, (10001 + (3 + 3) + 5000, told) ∈ c.told := by
  obtain ⟨hstop, hrelease⟩ := release_never_waits
  obtain ⟨grant, hgrant, htakes⟩ := hrelease {} true renewingRun heldMeanwhile rfl (by decide)
  obtain rfl : ⟨"job-42", "key-1", 20⟩ = grant := Option.some.inj hgrant
  refine ⟨rfl, ?_, ?_⟩
  · have hend : Halt.Reachable 10001 renewing
        (Halt.begin { now := 10001, renewer := renewing }).wake.poll :=
      .tail (.tail (.tail .refl (.begins rfl)) .wakes) .polled
    exact ⟨_, hend, rfl, (hstop renewing 10001 _ hend).2⟩
  · let i := unlockInvocation {} ⟨"job-42", "key-1"⟩
    have hrep : i.Repeats secondReturn 1 := by
      intro j hj
      obtain rfl : j = 0 := by omega
      exact ⟨rfl, rfl⟩
    have hlast : i.IsLast secondReturn 1 := by
      intro htransient
      cases htransient
    obtain ⟨c, hc, htold⟩ := (htakes secondReturn 10001).ends 1 (hrep.endsWith hlast) _ .refl rfl
    obtain ⟨⟨t, told⟩, hp⟩ := List.exists_mem_of_ne_nil _ htold
    obtain ⟨k, hk, hcalls, htime⟩ := (htakes secondReturn 10001).lasts rfl c hc _ hp
    obtain rfl : k = 1 :=
      Nat.le_antisymm (le_of_isLast hlast hk.repeats.1) (le_of_isLast hk.repeats.2 hrep)
    refine ⟨c, hc, ?_, told, ?_⟩
    · rw [hcalls, length_unlocks]
    · obtain rfl : t = 10001 + (3 + 3) + 5000 := htime
      exact hp

end TimedRelease

end DistLock
