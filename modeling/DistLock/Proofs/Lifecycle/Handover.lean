import DistLock.Proofs.Lifecycle.Renewers
import DistLock.Proofs.Lifecycle.Transitions

/-!
# The release of a dropped session

A lock that is granted stays owed until a release returns (`owes_of_run`),
so a session that is dropped before that hands the lock over to a background
release. `HandedOver` says where that release stands, and follows it to the
last: it gives the lock back unless it finds that its renewer broke down,
which takes the release with it (`handover_unlocks_iff`).
-/

namespace DistLock

namespace Lifecycle

/-- The renewer broke down, and nobody has taken that over. -/
def isBroken (l : Lifecycle) : Bool := l.renewer?.any (·.isBroken)

/-- Where the release of a dropped session stands: `sent` tells that the
request `u` was sent, and `broke` that the renewer was seen broken. -/
def HandedOver (sent broke : Prop) (u : UnlockRequest) : Lifecycle → Prop
  | .background b => b.request = u ∧
    match b.stage with
    | .ready | .stopping => ¬ sent ∧ (broke → ∃ r, b.renewer = some r ∧ r.isBroken = true)
    | .unlocking run => run.request = u ∧ b.renewer = none ∧ sent ∧ ¬ broke
    | .done => b.renewer = none ∧ (sent ↔ ¬ broke)
  | _ => False

variable {now : Nat} {autoRefresh : Bool} {g : Option Grant} {l : Lifecycle} {e : Event}
  {step : Step Lifecycle OwnerResult} {sent broke : Prop} {u : UnlockRequest}
  {b b' : BackgroundRelease} {r : Renewer}

/-! ## The moves of a background release -/

/-- What the release meets next is known as long as it matters. -/
theorem HandedOver.meet (h : HandedOver sent broke u l) :
    HandedOver sent (broke ∨ l.isBroken = true) u l := by
  cases l with
  | background b =>
      obtain ⟨hreq, hb⟩ := h
      refine ⟨hreq, ?_⟩
      cases hst : b.stage <;> simp only [hst] at hb ⊢
      case ready | stopping =>
        refine ⟨hb.1, fun hbroke => hbroke.elim hb.2 fun hnow => ?_⟩
        exact (Option.any_eq_true _ _).1 hnow
      case unlocking run =>
        have hnow : (Lifecycle.background b).isBroken = false := by
          simp [isBroken, Lifecycle.renewer?, hb.2.1]
        simpa [hnow] using hb
      case done =>
        have hnow : (Lifecycle.background b).isBroken = false := by
          simp [isBroken, Lifecycle.renewer?, hb.1]
        simpa [hnow] using hb
  | _ => exact h.elim

/-- A broken renewer stays as it is until the release takes
over how it ended. -/
theorem HandedOver.setRenewer (h : HandedOver sent broke u l) (r' : Renewer)
    (hr : l.renewer? = some r) (hsame : r.isBroken = true → r' = r) :
    HandedOver sent broke u (l.setRenewer r') := by
  cases l with
  | background b =>
      obtain ⟨hreq, hb⟩ := h
      replace hr : b.renewer = some r := hr
      refine ⟨hreq, ?_⟩
      cases hst : b.stage <;> simp only [hst, hr] at hb ⊢
      case ready | stopping =>
        refine ⟨hb.1, fun hbroke => ?_⟩
        obtain ⟨x, hx, hbroken⟩ := hb.2 hbroke
        obtain rfl := Option.some.inj hx
        exact ⟨r', rfl, by rw [hsame hbroken, hbroken]⟩
      case unlocking run => simp at hb
      case done => simp at hb
  | _ => exact h.elim

/-- A release that looks for the end of its renewer has sent nothing, and
finds it broken if it was. -/
theorem HandedOver.awaitsEnd (h : HandedOver sent broke u (.background b)) (ha : b.AwaitsEnd b') :
    b'.request = u ∧ ¬ sent ∧ (broke → ∃ r, b'.renewer = some r ∧ r.isBroken = true) := by
  obtain ⟨hreq, hb⟩ := h
  cases ha with
  | first hst =>
      simp only [hst] at hb
      refine ⟨hreq, hb.1, fun hbroke => ?_⟩
      obtain ⟨r, hr, hbroken⟩ := hb.2 hbroke
      exact ⟨r.cancel, by simp [hr], hbroken⟩
  | again hst =>
      simp only [hst] at hb
      exact ⟨hreq, hb⟩

theorem isBroken_of_backgroundAwaits (ha : b.AwaitsEnd b') (hr : b'.renewer = some r) :
    (Lifecycle.background b).isBroken = r.isBroken := by
  cases ha with
  | first _ =>
      obtain ⟨r₀, hr₀, rfl⟩ := Option.map_eq_some_iff.1 hr
      simp [isBroken, Lifecycle.renewer?, hr₀]
  | again _ => simp [isBroken, Lifecycle.renewer?, hr]

theorem handedOver_of_move (h : HandedOver sent broke u l) (hb : l.isBroken = true → broke)
    (hm : Move now l e step) :
    HandedOver (sent ∨ step.sent = some (.unlock u)) broke u step.next := by
  cases hm with
  | stay _ => simpa [Step.stay] using h
  | @renewerWakes l r hr =>
      have hnext := h.setRenewer (r.wake now).next hr fun hbroken =>
        congrArg Step.next (Renewer.wake_over (Renewer.isAlive_false_of_isBroken hbroken))
      have hother : (r.wake now).sent ≠ some (.unlock u) := by
        intro hq
        simpa [Request.operation] using (Renewer.wake_sent hq).2
      simpa [Step.silent, Step.lift, hother] using hnext
  | @renewerAnswered l r reply hr =>
      have hnext := h.setRenewer (r.answer now reply).next hr fun hbroken =>
        congrArg Step.next (Renewer.answer_over (Renewer.isAlive_false_of_isBroken hbroken))
      simpa [Step.silent, Step.lift, Renewer.answer_sent] using hnext
  | backgroundWaits ha _ _ =>
      obtain ⟨hreq, hsent, hbroke⟩ := h.awaitsEnd ha
      exact ⟨hreq, by simpa [Step.stay] using hsent, hbroke⟩
  | backgroundBreaks ha hr hbroken =>
      -- the one end at which nothing was sent
      obtain ⟨hreq, hsent, -⟩ := h.awaitsEnd ha
      have hbroke : broke := hb (isBroken_of_backgroundAwaits ha hr ▸ hbroken)
      exact ⟨hreq, rfl, by simpa [Step.stay, hbroke] using hsent⟩
  | backgroundUnlocks ha hover =>
      obtain ⟨hreq, -, hbroke⟩ := h.awaitsEnd ha
      refine ⟨hreq, hreq, rfl, .inr (congrArg (some <| Request.unlock ·) hreq), fun hb' => ?_⟩
      -- a renewer seen broken would still be, and the release would not get here
      obtain ⟨r, hr, hbroken⟩ := hbroke hb'
      simp [(hover r hr).2] at hbroken
  | @backgroundRetried b run run' hst hrun =>
      obtain ⟨hreq, hb⟩ := h
      simp only [hst] at hb
      obtain ⟨hrequest, hr, hsent, hbroke⟩ := hb
      exact ⟨hreq, (Run.resume?_eq_some hrun).2.1.trans hrequest, hr, .inl hsent, hbroke⟩
  | @backgroundPaused b run run' reply log hst _ hp =>
      obtain ⟨hreq, hb⟩ := h
      simp only [hst] at hb
      obtain ⟨hrequest, hr, hsent, hbroke⟩ := hb
      exact ⟨hreq, (Run.answer_pausing hp).1.trans hrequest, hr, .inl hsent, hbroke⟩
  | @backgroundDone b run reply log hst _ =>
      obtain ⟨hreq, hb⟩ := h
      simp only [hst] at hb
      obtain ⟨-, hr, hsent, hbroke⟩ := hb
      exact ⟨hreq, hr, by simp [hsent, hbroke]⟩
  | _ => exact h.elim

/-! ## What is owed until the drop -/

/-- A lock is given back by a release that returns, and by nothing else. -/
theorem not_released_of_run (policy : RetryPolicy) (autoRefresh : Bool)
    (es : List (Nat × Event))
    (hreturn : ∀ m ∈ (new policy autoRefresh).moments es, m.returnsRelease = false) {s : Session}
    {activity : Activity} (hl : (new policy autoRefresh).after es = .owned s activity) :
    s.state ≠ .released := by
  refine run_induction (l := new policy autoRefresh) (P := fun ms l =>
    (∀ m ∈ ms, m.returnsRelease = false) →
      ∀ s activity, l = .owned s activity → s.state ≠ .released) ?_ ?_ es hreturn s activity hl
  · rintro - s activity hnew
    obtain ⟨rfl, -⟩ := Lifecycle.owned.inj hnew
    simp
  · intro es now e ih hms s' activity' hn hst
    have hm := step_move ((new policy autoRefresh).after es) now e
    obtain ⟨s, activity, hl, hsame | ⟨-, hnow⟩⟩ :=
      state_of_move (consistent_run policy autoRefresh es) hm hn
    · exact ih (fun m hm => hms m (List.mem_append_left _ hm)) s activity hl (hsame ▸ hst)
    · have hlast := hms ⟨now, e, _⟩ (List.mem_append_right _ (List.mem_singleton.2 rfl))
      exact absurd ((hnow hst).symm.trans hlast) (by simp)

/-- A lock that was granted is owed until a release returns. -/
theorem owes_of_run {policy : RetryPolicy} {es : List (Nat × Event)} {grant : Grant}
    (hg : granted ((new policy autoRefresh).moments es) = some grant)
    (hreturn : ∀ m ∈ (new policy autoRefresh).moments es, m.returnsRelease = false) {s : Session}
    {activity : Activity} (hl : (new policy autoRefresh).after es = .owned s activity) :
    s.owesUnlock = true ∧ ∃ x, s.handle = some x ∧
      (⟨x.name, x.secret⟩ : UnlockRequest) = grant.unlockRequest := by
  have h := consistent_run policy autoRefresh es
  rw [hl, hg] at h
  have howes : s.owesUnlock = true := by
    have hs := h.fits
    have hreleased := not_released_of_run policy autoRefresh es hreturn hl
    rw [h.owesUnlock_eq]
    cases hst : s.state <;> simp only [Session.Fits, hst] at hs
    case held | releasing => rfl
    case released => exact absurd hst hreleased
    all_goals simp at hs
  obtain ⟨-, grant', x, hg', hx, hshow⟩ := h.shows_of_owes howes
  obtain rfl := Option.some.inj hg'
  exact ⟨howes, x, hx, hshow.unlockRequest⟩

/-! ## From the drop to the end -/

/-- The release of a dropped session ends with the lock given back, unless
it finds that the renewer broke down. -/
theorem handedOver_of_run (es : List (Nat × Event)) (ms : List Moment)
    (h : HandedOver (∃ m ∈ ms, m.sent = some (.unlock u))
      (∃ m ∈ ms, m.before.isBroken = true) u l) :
    HandedOver (∃ m ∈ ms ++ l.moments es, m.sent = some (.unlock u))
      (∃ m ∈ ms ++ l.moments es, m.before.isBroken = true) u (l.after es) := by
  -- the moments so far are carried along, for what was sent or broke in
  -- them is remembered
  induction es generalizing l ms with
  | nil => simpa using h
  | cons p es ih =>
      have hnext := ih (l := (l.step p.1 p.2).next) (ms ++ [⟨p.1, p.2, l⟩]) ?_
      · simpa using hnext
      · have hmove := handedOver_of_move h.meet .inr (step_move l p.1 p.2)
        simp only [List.mem_append, List.mem_singleton, or_and_right, exists_or, exists_eq_left]
        exact hmove

/-- A session that was granted its lock, and is dropped before a release
returned, becomes a background release; and at its end the lock was given
back under its name and key, unless the renewer had broken down and nobody
had taken that over. -/
theorem handover_unlocks_iff (policy : RetryPolicy) (autoRefresh : Bool)
    (es es' : List (Nat × Event)) (dropped : Nat) (grant : Grant) (s : Session)
    (activity : Activity) (hg : granted ((new policy autoRefresh).moments es) = some grant)
    (hreturn : ∀ m ∈ (new policy autoRefresh).moments es, m.returnsRelease = false)
    (hl : (new policy autoRefresh).after es = .owned s activity) :
    ∃ b, (Lifecycle.owned s activity).after ((dropped, .drop true) :: es') = .background b ∧
      (b.stage = .done →
        ((∃ m ∈ (Lifecycle.owned s activity).moments ((dropped, .drop true) :: es'),
          m.sent = some (.unlock grant.unlockRequest)) ↔
        ∀ m ∈ (Lifecycle.owned s activity).moments ((dropped, .drop true) :: es'),
          m.before.isBroken = false)) := by
  obtain ⟨howes, x, hx, hreq⟩ := owes_of_run hg hreturn hl
  have hdrop : ((Lifecycle.owned s activity).step dropped (.drop true)).next =
      .background (s.handOver x) := by
    simp [Lifecycle.step, Session.drop, howes, hx, Session.handOver]
  have hsent : ((Lifecycle.owned s activity).step dropped (.drop true)).sent = none := by
    simp [Lifecycle.step, Session.drop, howes, hx]
  have hstart : HandedOver
      (∃ m ∈ [(⟨dropped, .drop true, .owned s activity⟩ : Moment)],
        m.sent = some (.unlock grant.unlockRequest))
      (∃ m ∈ [(⟨dropped, .drop true, .owned s activity⟩ : Moment)], m.before.isBroken = true)
      grant.unlockRequest (.background (s.handOver x)) := by
    refine ⟨hreq, ?_, ?_⟩
    · simp [Moment.sent, Moment.step, hsent]
    · intro hbroke
      simp only [List.mem_singleton, exists_eq_left] at hbroke
      exact (Option.any_eq_true _ _).1 hbroke
  have hend := handedOver_of_run es' _ hstart
  rw [← hdrop] at hend
  change HandedOver (∃ m ∈ (Lifecycle.owned s activity).moments ((dropped, .drop true) :: es'), _)
    (∃ m ∈ (Lifecycle.owned s activity).moments ((dropped, .drop true) :: es'), _) _
    ((Lifecycle.owned s activity).after ((dropped, .drop true) :: es')) at hend
  cases hafter : (Lifecycle.owned s activity).after ((dropped, .drop true) :: es') with
  | background b =>
      rw [hafter] at hend
      refine ⟨b, rfl, fun hdone => ?_⟩
      obtain ⟨-, hb⟩ := hend
      simp only [hdone] at hb
      simpa using hb.2
  | _ =>
      rw [hafter] at hend
      exact hend.elim

/-- What a release of a dropped session does when its renewer
comes to an end. -/
theorem handover_unlocks_after_renewal :
    ∃ s, (new {} true).after grantedRun = .owned s .resting ∧
      ∃ m ∈ (Lifecycle.owned s .resting).moments [(3, .drop true), (3, .wake .holder),
          (3, .wake .renewer), (3, .wake .holder),
          (4, .answer (.unlocked (.response { unlocked := true })))],
        m.sent = some (.unlock ⟨"job-42", "key-1"⟩) := by
  refine ⟨_, rfl, ?_⟩
  obtain ⟨b, hb, hdone⟩ := handover_unlocks_iff {} true grantedRun [(3, .wake .holder),
    (3, .wake .renewer), (3, .wake .holder),
    (4, .answer (.unlocked (.response { unlocked := true })))] 3 ⟨"job-42", "key-1", 20⟩ _ .resting
    (by decide) (by decide) rfl
  obtain rfl := Lifecycle.background.inj hb
  exact (hdone rfl).2 (by decide)

/-- A renewal that breaks down. -/
def brokenRun : List (Nat × Event) :=
  grantedRun ++ [(0, .wake .renewer), (10000, .wake .renewer),
    (10000, .answer (.refreshed (.crash "boom")))]

/-- A renewer that broke down takes the release of a dropped
session with it. -/
theorem handover_breaks :
    granted ((new {} true).moments brokenRun) = some ⟨"job-42", "key-1", 20⟩ ∧
      (∀ m ∈ (new {} true).moments brokenRun, m.returnsRelease = false) ∧
      ∃ s b, (new {} true).after brokenRun = .owned s .resting ∧
        (Lifecycle.owned s .resting).after [(10001, .drop true), (10001, .wake .holder)] =
          .background b ∧
        b.stage = .done ∧
        ∀ m ∈ (Lifecycle.owned s .resting).moments [(10001, .drop true), (10001, .wake .holder)],
          m.sends .unlock = false := by
  exact ⟨by decide, by decide, _, _, rfl, rfl, rfl, by decide⟩

end Lifecycle

end DistLock
