import DistLock.Proofs.Lifecycle.Invariant
import DistLock.Proofs.Renewal.Timetable

/-!
# The course of a renewal

A renewer that nobody stopped keeps to its timetable, and can be wherever the
timetable has it (`standing_of_reachable`, `reachable_of_standing`). One that
is stopped calls no more and counts no more, and those who stop it are told
how it ended, once (`Told`, `told_of_run`). `renewal_law` joins the two.
-/

namespace DistLock

namespace Renewer

variable {r : Renewer} {o : Prospect LockResponse} {start since now n j : Nat}
  {calls : List (Nat × Request)} {w w' : Renewal}

/-! ## Where a renewer stands -/

/-- It was just started. -/
def IsFresh (r : Renewer) : Prop := r = (Renewer.start r.policy r.name r.key r.lease).1

theorem IsFresh.cancelled (hf : r.IsFresh) : r.cancelled = false := by
  rw [hf]
  rfl

theorem wake_of_stay (h : w.renewer.wake w.now = .stay w.renewer) : w.wake = w := by
  simp [Renewal.wake, h, Step.stay]

theorem wake_of_send {q : Request} {r' : Renewer}
    (h : w.renewer.wake w.now = { next := r', sent := some q }) :
    w.wake = { w with renewer := r', calls := w.calls ++ [(w.now, q)] } := by
  simp [Renewal.wake, h]

/-- A renewer that goes on keeps to its timetable. -/
theorem Standing.wake (hf : r.IsFresh) (h : Standing r o start w) :
    Standing r o start w.wake := by
  have hc := hf.cancelled
  cases h with
  | ready =>
      rw [hf]
      exact .ahead .begun (Nat.le_refl _) (Nat.le_add_right _ _)
  | @ahead n calls since now hcourse hle hdue =>
      rcases Nat.lt_or_ge now (r.nextAfter since) with hearly | hlate
      · rw [wake_of_stay (wake_asleep_early hc hearly)]
        exact .ahead hcourse hle hdue
      · -- the first attempt of the next renewal
        obtain rfl := Nat.le_antisymm hdue hlate
        have hfirst := Standing.calling (n := n) hcourse
          (r.invocation.repeats_zero _) (Nat.le_refl _) (attemptAt_le_replyAt ..)
        rw [callsAfter_concat, attemptAt_zero] at hfirst
        rw [wake_of_send (wake_asleep hc hlate)]
        exact hfirst
  | calling hcourse hrep hle hdue =>
      rw [wake_of_stay (wake_inCall hc)]
      exact .calling hcourse hrep hle hdue
  | @pausing n calls since j now hcourse hrep hle hdue =>
      rcases Nat.lt_or_ge now (r.attemptAt (o.drop calls.length) since (j + 1)) with hearly | hlate
      · rw [wake_of_stay (wake_inPause_early hc hearly)]
        exact .pausing hcourse hrep hle hdue
      · -- the next attempt of the same renewal
        obtain rfl := Nat.le_antisymm hdue hlate
        have hnext := Standing.calling (n := n) hcourse hrep (Nat.le_refl _)
          (attemptAt_le_replyAt ..)
        rw [callsAfter_concat, ← List.append_assoc] at hnext
        rw [wake_of_send (wake_inPause hc hlate)]
        exact hnext
  | ended hcourse hends he hle =>
      rw [wake_of_stay wake_failed]
      exact .ended hcourse hends he hle

/-- Time passes up to what is due, and so to the next entry of the
timetable at most. -/
theorem Standing.passes {later : Nat} (hf : r.IsFresh) (h : Standing r o start w)
    (hle : w.now ≤ later) (hdue : ∀ t, w.renewer.dueAt = some t → later ≤ max w.now t)
    (hanswer : ∀ t, w.answeredAt o = some t → later ≤ max w.now t) :
    Standing r o start { w with now := later } := by
  have hc := hf.cancelled
  cases h with
  | ready =>
      have hlater : later ≤ max start 0 := hdue 0 (by rw [hf]; rfl)
      obtain rfl : later = start := by
        simp only at hle
        omega
      exact .ready
  | @ahead n calls since now hcourse hsince hnow =>
      have hlater : later ≤ max now _ := hdue _ (dueAt_asleep hc)
      rw [Nat.max_eq_right hnow] at hlater
      exact .ahead hcourse (Nat.le_trans hsince hle) hlater
  | @calling n calls since j now hcourse hrep hsince hnow =>
      have hlater : later ≤ max now _ := hanswer _ (answeredAt_calls rfl rfl)
      rw [Nat.max_eq_right hnow] at hlater
      exact .calling hcourse hrep (Nat.le_trans hsince hle) hlater
  | @pausing n calls since j now hcourse hrep hsince hnow =>
      have hlater : later ≤ max now _ := hdue _ (dueAt_inPause hc)
      rw [Nat.max_eq_right hnow] at hlater
      exact .pausing hcourse hrep (Nat.le_trans hsince hle) hlater
  | ended hcourse hends he hsince => exact .ended hcourse hends he (Nat.le_trans hsince hle)

/-- The reply to a call is followed by what the timetable has next. -/
theorem Standing.answer (hcalm : ∀ k text, o.reply k ≠ .crash text) (hf : r.IsFresh)
    (h : Standing r o start w) (hnow : w.answeredAt o = some w.now) :
    Standing r o start (w.answer o) := by
  have hc := hf.cancelled
  cases h with
  | @calling n calls since j now hcourse hrep hle hdue =>
      obtain rfl := Option.some.inj ((answeredAt_calls rfl rfl).symm.trans hnow)
      rw [answer_calls]
      rcases hrep.more_or_last with hmore | hlast
      · obtain ⟨htransient, hroom⟩ := hmore j (Nat.lt_succ_self j)
        obtain ⟨log, hs⟩ := Invocation.settle_again (i := r.invocation.repeated j) htransient
          hroom
        have hnext := Standing.pausing (n := n) hcourse hmore (Nat.le_refl _)
          (replyAt_le_attemptAt ..)
        rw [attemptAt_succ] at hnext
        rw [answer_inCall_again hc hs]
        exact hnext
      · obtain ⟨log, hs⟩ := Invocation.settle_finished (i := r.invocation.repeated j) hlast
        have hends : r.invocation.EndsWith (o.drop calls.length) (r.nextAfter since) j :=
          hrep.endsWith hlast
        rcases Reply.isLocked_or_error (hcalm (calls.length + j)) with hlocked | ⟨e, he⟩
        · rw [answer_inCall_locked hc hs hlocked]
          exact .ahead (.renewed hcourse hends hlocked) (Nat.le_refl _) (Nat.le_add_right _ _)
        · rw [answer_inCall_failed hc hs he]
          exact .ended hcourse hends he (Nat.le_refl _)
  | ready =>
      rw [hf] at hnow
      cases hnow
  | ahead _ _ _ | pausing _ _ _ _ | ended _ _ _ _ => cases hnow

/-! ## What is reached -/

theorem join_cancelled (r : Renewer) : r.join.next.cancelled = r.cancelled := by
  unfold join
  split
  · rfl
  · split <;> rfl

/-- Who was asked to end stays so. -/
theorem cancelled_of_next (h : w.Next o w') (hc : w.renewer.cancelled = true) :
    w'.renewer.cancelled = true := by
  cases h with
  | passes _ _ _ => exact hc
  | wakes => exact wake_flags.1.trans hc
  | answered _ => exact answer_flags.1.trans hc
  | stopped => exact join_cancelled _

/-- A renewer that nobody stopped keeps to its timetable. -/
theorem standing_of_reachable (hcalm : ∀ k text, o.reply k ≠ .crash text) (hf : r.IsFresh)
    (h : w.Reachable o start r) (hc : w.renewer.cancelled = false) : Standing r o start w := by
  induction h with
  | refl => exact .ready
  | @tail w w' _ hnext ih =>
      have hbefore : w.renewer.cancelled = false := by
        rw [← Bool.not_eq_true]
        intro hcancelled
        simp [cancelled_of_next hnext hcancelled] at hc
      have hstanding := ih hbefore
      cases hnext with
      | passes hle hdue hanswer => exact hstanding.passes hf hle hdue hanswer
      | wakes => exact hstanding.wake hf
      | answered hnow => exact hstanding.answer hcalm hf hnow
      | stopped => exact absurd hc (by simp [Renewal.stop, join_cancelled, cancel])

/-- Time can pass up to what is due. -/
theorem reachable_later (h : w.Reachable o start r) (later : Nat) (hle : w.now ≤ later)
    (hdue : ∀ t, w.renewer.dueAt = some t → later ≤ t)
    (hanswer : ∀ t, w.answeredAt o = some t → later ≤ t) :
    Renewal.Reachable o start r { w with now := later } :=
  h.tail (.passes hle (fun t ht => Nat.le_trans (hdue t ht) (Nat.le_max_right _ _))
    fun t ht => Nat.le_trans (hanswer t ht) (Nat.le_max_right _ _))

/-- A renewer that sleeps gets to the next renewal. -/
theorem reachable_ahead (hc : r.cancelled = false)
    (h : Renewal.Reachable o start r ⟨since, r.asleep n since, calls, []⟩) (hle : since ≤ now)
    (hdue : now ≤ r.nextAfter since) :
    Renewal.Reachable o start r ⟨now, r.asleep n since, calls, []⟩ := by
  refine reachable_later h now hle ?_ fun t ht => by cases ht
  intro t ht
  obtain rfl := Option.some.inj ((dueAt_asleep hc).symm.trans ht)
  exact hdue

/-- An attempt that is under way gets to its reply. -/
theorem reachable_calling (hc : r.cancelled = false)
    (h : Renewal.Reachable o start r ⟨r.attemptAt (o.drop calls.length) since j, r.inCall n j none,
      calls ++ r.callsAfter (o.drop calls.length) since (j + 1), []⟩)
    (hle : r.attemptAt (o.drop calls.length) since j ≤ now)
    (hdue : now ≤ r.replyAt (o.drop calls.length) since j) :
    Renewal.Reachable o start r ⟨now, r.inCall n j none,
      calls ++ r.callsAfter (o.drop calls.length) since (j + 1), []⟩ := by
  refine reachable_later h now hle (fun t ht => ?_) fun t ht => ?_
  · rw [dueAt_inCall hc] at ht
    cases ht
  · obtain rfl := Option.some.inj ((answeredAt_calls rfl rfl).symm.trans ht)
    exact hdue

/-- The reply to an attempt can arrive. -/
theorem reachable_reply (hc : r.cancelled = false)
    (h : Renewal.Reachable o start r ⟨r.attemptAt (o.drop calls.length) since j, r.inCall n j none,
      calls ++ r.callsAfter (o.drop calls.length) since (j + 1), []⟩) :
    Renewal.Reachable o start r ⟨r.replyAt (o.drop calls.length) since j,
      ((r.inCall n j none).answer (r.replyAt (o.drop calls.length) since j)
        ((o.drop calls.length).reply j)).next,
      calls ++ r.callsAfter (o.drop calls.length) since (j + 1), []⟩ := by
  have hcall := reachable_calling hc h (attemptAt_le_replyAt ..) (Nat.le_refl _)
  have hanswered := hcall.tail (.answered (answeredAt_calls rfl rfl))
  rw [answer_calls] at hanswered
  exact hanswered

/-- An attempt that is to be repeated gets into the pause after it. -/
theorem reachable_pausing (hc : r.cancelled = false)
    (h : Renewal.Reachable o start r ⟨r.attemptAt (o.drop calls.length) since j, r.inCall n j none,
      calls ++ r.callsAfter (o.drop calls.length) since (j + 1), []⟩)
    (hrep : r.invocation.Repeats (o.drop calls.length) (j + 1))
    (hle : r.replyAt (o.drop calls.length) since j ≤ now)
    (hdue : now ≤ r.attemptAt (o.drop calls.length) since (j + 1)) :
    Renewal.Reachable o start r
      ⟨now, r.inCall n (j + 1) (some (r.attemptAt (o.drop calls.length) since (j + 1))),
        calls ++ r.callsAfter (o.drop calls.length) since (j + 1), []⟩ := by
  obtain ⟨htransient, hroom⟩ := hrep j (Nat.lt_succ_self j)
  obtain ⟨log, hs⟩ := Invocation.settle_again (i := r.invocation.repeated j) htransient hroom
  have hreply := reachable_reply hc h
  rw [answer_inCall_again hc hs, ← attemptAt_succ] at hreply
  refine reachable_later hreply now hle ?_ fun t ht => by cases ht
  intro t ht
  obtain rfl := Option.some.inj ((dueAt_inPause hc).symm.trans ht)
  exact hdue

/-- From its sleep, a renewer gets to every attempt of its next renewal. -/
theorem reachable_attempt (hc : r.cancelled = false)
    (h : Renewal.Reachable o start r ⟨since, r.asleep n since, calls, []⟩)
    (hrep : r.invocation.Repeats (o.drop calls.length) j) :
    Renewal.Reachable o start r ⟨r.attemptAt (o.drop calls.length) since j, r.inCall n j none,
      calls ++ r.callsAfter (o.drop calls.length) since (j + 1), []⟩ := by
  induction j with
  | zero =>
      have hcall := (reachable_ahead hc h (Nat.le_add_right _ _) (Nat.le_refl _)).tail .wakes
      rw [wake_of_send (wake_asleep hc (Nat.le_refl _))] at hcall
      rw [callsAfter_concat, attemptAt_zero]
      exact hcall
  | succ j ih =>
      have hcalling := ih fun i hi => hrep i (Nat.lt_succ_of_lt hi)
      have hcall := (reachable_pausing hc hcalling hrep (replyAt_le_attemptAt ..)
        (Nat.le_refl _)).tail .wakes
      rw [wake_of_send (wake_inPause hc (Nat.le_refl _)), List.append_assoc] at hcall
      rw [callsAfter_concat]
      exact hcall

/-- Every entry of the timetable is reached. -/
theorem reachable_of_course (hf : r.IsFresh) (h : Course r o start n calls since) :
    Renewal.Reachable o start r ⟨since, r.asleep n since, calls, []⟩ := by
  have hc := hf.cancelled
  induction h with
  | begun =>
      have hready : Renewal.Reachable o start r (Renewal.wake ⟨start, r, [], []⟩) :=
        Relation.ReflTransGen.single .wakes
      rw [hf] at hready ⊢
      exact hready
  | @renewed n calls since k _ hends hlocked ih =>
      obtain ⟨hrep, hlast⟩ := hends.repeats
      obtain ⟨log, hs⟩ := Invocation.settle_finished (i := r.invocation.repeated k) hlast
      have hreply := reachable_reply hc (reachable_attempt hc ih hrep)
      rw [answer_inCall_locked hc hs hlocked] at hreply
      exact hreply

/-- A renewer that nobody stopped can be wherever the timetable has it. -/
theorem reachable_of_standing (hf : r.IsFresh) (h : Standing r o start w) :
    w.Reachable o start r := by
  have hc := hf.cancelled
  cases h with
  | ready => exact .refl
  | ahead hcourse hle hdue =>
      exact reachable_ahead hc (reachable_of_course hf hcourse) hle hdue
  | calling hcourse hrep hle hdue =>
      have hcall := reachable_attempt hc (reachable_of_course hf hcourse) hrep
      exact reachable_calling hc hcall hle hdue
  | pausing hcourse hrep hle hdue =>
      have hcall := reachable_attempt hc (reachable_of_course hf hcourse)
        fun i hi => hrep i (Nat.lt_succ_of_lt hi)
      exact reachable_pausing hc hcall hrep hle hdue
  | @ended n calls since k now e hcourse hends he hle =>
      obtain ⟨hrep, hlast⟩ := hends.repeats
      obtain ⟨log, hs⟩ := Invocation.settle_finished (i := r.invocation.repeated k) hlast
      have hreply := reachable_reply hc (reachable_attempt hc (reachable_of_course hf hcourse) hrep)
      rw [answer_inCall_failed hc hs he] at hreply
      exact reachable_later hreply now hle (fun t ht => by cases ht) fun t ht => by cases ht

/-! ## After it is stopped -/

theorem wake_refreshes : (r.wake now).next.refreshes = r.refreshes := by
  have hs := r.wakes_of_wake now
  generalize r.wake now = s at hs ⊢
  cases hs <;> rfl

/-- A reply that comes after the renewer was asked to end
counts for nothing. -/
theorem answer_of_cancelled {reply : Reply LockResponse} (hc : r.cancelled = true) :
    (r.answer now reply).next.refreshes = r.refreshes ∧
      ((r.answer now reply).next.hasCrashed = true → r.hasCrashed = true) := by
  have hs := r.answers_of_answer now reply
  generalize r.answer now reply = s at hs ⊢
  cases hs with
  | idle _ => exact ⟨rfl, id⟩
  | stops _ _ => exact ⟨rfl, fun h => by cases h⟩
  | pauses hl _ _ | renewed hl _ | failed hl _ _ | broke hl _ => simp [isListening, hc] at hl

/-- `Told w₀ w`: since `w₀` nothing was sent and nothing was counted, and
those who stopped the renewer were told how it had ended by `w₀`, once. -/
structure Told (w₀ w : Renewal) : Prop where
  calls : w.calls = w₀.calls
  refreshes : w.renewer.refreshes = w₀.renewer.refreshes
  intact : w.renewer.hasCrashed = false
  waits : w.renewer.joined = false → w.stops = [] ∧ w.renewer.error? = w₀.renewer.error?
  joined : w.renewer.joined = true →
    ∃ n, w.stops = w₀.renewer.error?.elim (.ok ()) .error :: List.replicate n (.ok ())

variable {w₀ : Renewal}

theorem Standing.told (hf : r.IsFresh) (h : Standing r o start w) : w.stops = [] ∧ Told w w := by
  have hj : r.joined = false := by
    rw [hf]
    rfl
  cases h with
  | ready => exact ⟨rfl, rfl, rfl, by rw [hf]; rfl, fun _ => ⟨rfl, rfl⟩, fun h => by simp [hj] at h⟩
  | ahead _ _ _ | calling _ _ _ _ | pausing _ _ _ _ | ended _ _ _ _ =>
      refine ⟨rfl, rfl, rfl, rfl, fun _ => ⟨rfl, rfl⟩, fun h => ?_⟩
      exact absurd (hj.symm.trans h) (by simp)

theorem stop_of_joined (hj : w.renewer.joined = true) :
    w.stop = { w with renewer := w.renewer.cancel, stops := w.stops ++ [.ok ()] } := by
  simp [Renewal.stop, join, cancel, hj]

theorem stop_of_ended {error : Option ClientError} (hst : w.renewer.stage = .ended error)
    (hj : w.renewer.joined = false) : w.stop = { w with
      renewer := { w.renewer.cancel with joined := true }
      stops := w.stops ++ [error.elim (.ok ()) .error] } := by
  simp [Renewal.stop, join, cancel, hst, hj]

theorem stop_of_isAlive (h : w.renewer.isAlive = true) (hj : w.renewer.joined = false) :
    w.stop = { w with renewer := w.renewer.cancel } := by
  have hrunning : w.renewer.cancel.isRunning = true := by
    rw [isRunning, show w.renewer.cancel.isAlive = true from h,
      show w.renewer.cancel.joined = false from hj]
    rfl
  simp [Renewal.stop, join_running hrunning, Step.stay]

/-- A renewer that neither is at work nor broke down has ended. -/
theorem exists_ended (h : r.isAlive = false) (hi : r.hasCrashed = false) :
    ∃ error, r.stage = .ended error := by
  cases hst : r.stage with
  | ended error => exact ⟨error, rfl⟩
  | crashed text => simp [hasCrashed, hst] at hi
  | ready | sleeping due | refreshing run => simp [isAlive, hst] at h

/-- Whoever stops a renewer is told how it ended, if it has; the first is
told its error. -/
theorem Told.stop (h : Told w₀ w) : Told w₀ w.stop := by
  cases hj : w.renewer.joined with
  | true =>
      obtain ⟨n, hstops⟩ := h.joined hj
      rw [stop_of_joined hj]
      refine ⟨h.calls, h.refreshes, h.intact, fun hno => ?_, fun _ => ⟨n + 1, ?_⟩⟩
      · exact absurd (hj.symm.trans hno) (by simp)
      · rw [List.replicate_succ', ← List.cons_append, ← hstops]
  | false =>
      obtain ⟨hstops, herror⟩ := h.waits hj
      cases halive : w.renewer.isAlive with
      | true =>
          rw [stop_of_isAlive halive hj]
          exact ⟨h.calls, h.refreshes, h.intact, fun _ => ⟨hstops, herror⟩, fun hyes =>
            absurd (hj.symm.trans hyes) (by simp)⟩
      | false =>
          obtain ⟨error, hst⟩ := exists_ended halive h.intact
          have hended : w₀.renewer.error? = error := by rw [← herror, error?, hst]
          rw [stop_of_ended hst hj]
          refine ⟨h.calls, h.refreshes, h.intact, (by rintro ⟨⟩), fun _ => ⟨0, ?_⟩⟩
          simp [hstops, hended]

/-- A renewer that was asked to end and goes on sends nothing, and
keeps its error. -/
theorem Told.wake (h : Told w₀ w) (hc : w.renewer.cancelled = true) : Told w₀ w.wake := by
  have hsent : (w.renewer.wake w.now).sent = none := by
    cases hq : (w.renewer.wake w.now).sent with
    | none => rfl
    | some q => simp [(Renewer.wake_sent hq).1] at hc
  have hintact : (w.renewer.wake w.now).next.hasCrashed = false := by
    rw [← Bool.not_eq_true]
    intro hcrash
    simpa [h.intact] using wake_breaksDown hcrash
  refine ⟨by simpa [Renewal.wake, hsent] using h.calls, wake_refreshes.trans h.refreshes,
    hintact, fun hj => ?_, fun hj => h.joined (wake_flags.2.symm.trans hj)⟩
  obtain ⟨hstops, herror⟩ := h.waits (wake_flags.2.symm.trans hj)
  exact ⟨hstops, error?_wake.trans herror⟩

/-- A reply that comes after the renewer was asked to end changes
nothing of that. -/
theorem Told.answer (h : Told w₀ w) (hc : w.renewer.cancelled = true) :
    Told w₀ (w.answer o) := by
  obtain ⟨hrefreshes, hcrashes⟩ := answer_of_cancelled hc
  refine ⟨h.calls, hrefreshes.trans h.refreshes, ?_, fun hj => ?_,
    fun hj => h.joined (answer_flags.2.symm.trans hj)⟩
  · rw [← Bool.not_eq_true]
    intro hcrash
    simpa [h.intact] using hcrashes hcrash
  · obtain ⟨hstops, herror⟩ := h.waits (answer_flags.2.symm.trans hj)
    exact ⟨hstops, (error?_answer_cancelled hc).trans herror⟩

theorem Told.next (h : Told w₀ w) (hc : w.renewer.cancelled = true) (hnext : w.Next o w') :
    Told w₀ w' := by
  cases hnext with
  | passes _ _ _ => exact ⟨h.calls, h.refreshes, h.intact, h.waits, h.joined⟩
  | wakes => exact h.wake hc
  | answered _ => exact h.answer hc
  | stopped => exact h.stop

/-- The same of all that can come after the first stop. -/
theorem told_of_run (h : Told w₀ w) (hc : w.renewer.cancelled = true)
    (hrun : Relation.ReflTransGen (Renewal.Next o) w w') :
    Told w₀ w' ∧ w'.renewer.cancelled = true := by
  induction hrun with
  | refl => exact ⟨h, hc⟩
  | tail _ hnext ih => exact ⟨ih.1.next ih.2 hnext, cancelled_of_next hnext ih.2⟩

/-- Once a renewer was asked to end, its next turn ends it, and
a stop returns. -/
theorem Told.stop_returns (h : Told w₀ w) (hc : w.renewer.cancelled = true) :
    w.wake.stop.stops.length = w.stops.length + 1 := by
  have hover : w.wake.renewer.isAlive = false := wake_cancelled hc
  have hstops : w.wake.stops = w.stops := rfl
  cases hj : w.wake.renewer.joined with
  | true => simp [stop_of_joined hj, hstops]
  | false =>
      obtain ⟨error, hst⟩ := exists_ended hover (h.wake hc).intact
      simp [stop_of_ended hst hj, hstops]

/-- A renewer that was asked to end does so before any time passes. -/
theorem now_of_next (hc : w.renewer.cancelled = true) (halive : w.renewer.isAlive = true)
    (hnext : w.Next o w') : w'.now = w.now := by
  cases hnext with
  | passes hle hdue _ =>
      have hlater := hdue 0 (by simp [Renewer.dueAt, halive, hc])
      simp only at hlater ⊢
      omega
  | _ => rfl

end Renewer

/-! ## The whole -/

open Renewer

/-- **The course of a renewal.** For every policy and lease, and whatever
comes of its calls as long as none breaks down: a lock that is granted with
a lease gets this renewer; as long as nobody stops it, it is exactly where
its timetable has it, with sleeps that end with the longest one, and the
count of its renewals in 64 bits; and after somebody does, nothing more is
sent or counted, the first to stop it is told the error with which it had
ended by itself, if it had, and everybody after that, that it has ended. -/
theorem renewal_law (policy : RetryPolicy) (name key : String) (lease : UInt32) (hlease : 0 < lease)
    (start : Nat) (o : Prospect LockResponse) (hcalm : ∀ k text, o.reply k ≠ .crash text) :
    let r := (Renewer.start policy name key lease).1
    (∀ (s : Session) (a : Acquisition), s.policy = policy → s.autoRefresh = true → a.name = name →
      a.options.lease = lease → (s.grant a key start).1.renewer = some r) ∧
    (∀ w : Renewal, w.renewer.cancelled = false →
      (w.Reachable o start r ↔ Standing r o start w)) ∧
    ∀ w : Renewal, w.Reachable o start r → w.renewer.cancelled = false →
      ∀ w' : Renewal, Relation.ReflTransGen (Renewal.Next o) w.stop w' →
        w'.calls = w.calls ∧ w'.renewer.refreshes = w.renewer.refreshes ∧
        (w'.stops = [] ∨ ∃ n, w'.stops =
          w.renewer.error?.elim (.ok ()) .error :: List.replicate n (.ok ())) ∧
        w'.wake.stop.stops.length = w'.stops.length + 1 ∧
        (w'.renewer.isAlive = true → ∀ w'', w'.Next o w'' → w''.now = w'.now) := by
  intro r
  have hf : r.IsFresh := rfl
  refine ⟨?_, fun w hc => ⟨fun h => standing_of_reachable hcalm hf h hc,
    reachable_of_standing hf⟩, ?_⟩
  · rintro s a rfl hauto rfl rfl
    rw [Session.grant_renewer, if_pos ⟨hlease, hauto⟩]
    rfl
  · intro w h hc w' hrun
    obtain ⟨-, htold⟩ := (standing_of_reachable hcalm hf h hc).told hf
    have hcancelled : w.stop.renewer.cancelled = true := join_cancelled _
    obtain ⟨htold', hc'⟩ := told_of_run htold.stop hcancelled hrun
    refine ⟨htold'.calls, htold'.refreshes, ?_, htold'.stop_returns hc', fun halive _ hnext =>
      now_of_next hc' halive hnext⟩
    cases hj : w'.renewer.joined with
    | true => exact .inr (htold'.joined hj)
    | false => exact .inl (htold'.waits hj).1

/-- A service that cannot be reached at first, then says that the lock is
held, and then that its key is wrong. -/
def fadingService : Prospect LockResponse where
  delay _ := 5
  reply j :=
    if j = 0 then .failure { code := .unavailable }
    else if j = 1 then .response (.granted "job-42" "key-1")
    else .response { name := "job-42", error := some (.ofCode .invalidLockKey "invalid lock key") }

/-- The first renewal takes two attempts, the second fails, and those who
stop the renewer are told so once. -/
theorem renewal_law_fading :
    let r := (Renewer.start ⟨1000, 1⟩ "job-42" "key-1" 20).1
    ∃ w : Renewal, w.Reachable fadingService 0 r ∧ w.now = 21015 ∧ w.renewer.refreshes = 1 ∧
      w.calls = [(10000, .refreshLock r.request), (11005, .refreshLock r.request),
        (21010, .refreshLock r.request)] ∧
      w.stop.stops = [.error .invalidLockKey] ∧
      w.stop.stop.stops = [.error .invalidLockKey, .ok ()] ∧ w.stop.stop.calls = w.calls := by
  intro r
  have hcalm : ∀ k text, fadingService.reply k ≠ .crash text := by
    intro k text
    simp only [fadingService]
    split
    · simp
    · split <;> simp
  obtain ⟨-, hstanding, hstopped⟩ :=
    renewal_law ⟨1000, 1⟩ "job-42" "key-1" 20 (by decide) 0 fadingService hcalm
  have hfirst : r.invocation.EndsWith (fadingService.drop 0) (r.nextAfter 0) 1 :=
    Invocation.Repeats.endsWith (by unfold Invocation.Repeats; decide) (by decide)
  have hsecond : r.invocation.EndsWith (fadingService.drop 2) (r.nextAfter 11010) 0 :=
    Invocation.Repeats.endsWith (by unfold Invocation.Repeats; decide) (by decide)
  have hcalls : r.callsAfter (fadingService.drop 0) 0 2 =
      [(10000, .refreshLock r.request), (11005, .refreshLock r.request)] := by decide
  have htime : r.replyAt (fadingService.drop 0) 0 1 = 11010 := by decide
  have hcourse : Course r fadingService 0 1
      [(10000, .refreshLock r.request), (11005, .refreshLock r.request)] 11010 := by
    have hrenewed : Course r fadingService 0 _ _ _ := .renewed .begun hfirst (by decide)
    rw [← hcalls, ← htime]
    exact hrenewed
  have hlate : r.replyAt (fadingService.drop 2) 11010 0 ≤ 21015 := by decide
  have hreached := (hstanding _ rfl).2 (.ended hcourse hsecond rfl hlate)
  obtain ⟨hsame, -⟩ := hstopped _ hreached rfl _ (.single .stopped)
  exact ⟨_, hreached, rfl, rfl, by decide, rfl, rfl, hsame⟩

/-- A service that grants every renewal at once. -/
def promptService : Prospect LockResponse where
  delay _ := 0
  reply _ := .response (.granted "job-42" "key-1")

/-- It grants as many renewals as there is time for. -/
theorem exists_course (r : Renewer) (start n : Nat) :
    ∃ calls since, Course r promptService start n calls since ∧ calls.length = n := by
  induction n with
  | zero => exact ⟨[], start, .begun, rfl⟩
  | succ n ih =>
      obtain ⟨calls, since, hcourse, hlength⟩ := ih
      -- the first attempt of each renewal is the last
      have hends : r.invocation.EndsWith (promptService.drop calls.length) (r.nextAfter since) 0 :=
        (r.invocation.repeats_zero _).endsWith fun htransient => by cases htransient
      refine ⟨_, _, hcourse.renewed hends rfl, ?_⟩
      rw [List.length_append, length_callsAfter, hlength]

/-- Two bounds of a renewer: the longest lease is renewed when the longest
sleep is over, before the interval of the lease is; and after `2 ^ 64`
renewals, none is counted. -/
theorem renewal_law_bounds :
    let r := (Renewer.start {} "job-42" "key-1" 4294967295).1
    (∃ w : Renewal, w.Reachable promptService 0 r ∧
      w.calls = [(946080000000, .refreshLock r.request)] ∧
      946080000000 < 0 + 1000 * refreshInterval 4294967295) ∧
    ∃ calls since, Course r promptService 0 (2 ^ 64) calls since ∧ calls.length = 2 ^ 64 ∧
      Renewal.Reachable promptService 0 r ⟨since, r.asleep (2 ^ 64) since, calls, []⟩ ∧
      (r.asleep (2 ^ 64) since).refreshes = 0 := by
  intro r
  have hf : r.IsFresh := rfl
  constructor
  · have hbegun : Course r promptService 0 0 [] 0 := .begun
    have hcall := reachable_attempt hf.cancelled (reachable_of_course hf hbegun)
      (r.invocation.repeats_zero (promptService.drop 0))
    have hcalls : r.callsAfter (promptService.drop 0) 0 1 =
        [(946080000000, .refreshLock r.request)] := by decide
    exact ⟨_, hcall, hcalls, by decide⟩
  · obtain ⟨calls, since, hcourse, hlength⟩ := exists_course r 0 (2 ^ 64)
    refine ⟨calls, since, hcourse, hlength, reachable_of_course hf hcourse, ?_⟩
    show (UInt64.ofNat (2 ^ 64)).toNat = 0
    decide

end DistLock
