import DistLock.Proofs.Lifecycle.Holding
import DistLock.Proofs.Renewal.Pace

/-!
# What the requests of a session say

* `Tended` lists what a move can leave of a renewer that nobody asked to
  end; such a renewer serves what was granted (`served_of_run`), so every
  renewal asks for the lease of the grant.
* A session asks for one lock, and says the same each time (`asks_of_run`).

So all that a session sends tells the service one lease (`lease_of_sent`).
-/

namespace DistLock

namespace Request

/-- The lease that the service is told. -/
def lease? : Request → Option Int32
  | .lock r => r.lease
  | .tryLock r => r.lease
  | .refreshLock r => some r.lease
  | .unlock _ => none

end Request

@[simp] theorem Acquisition.request_lease (a : Acquisition) :
    a.request.lease? = nonZeroNumber a.options.lease := by
  unfold Acquisition.request
  split <;> rfl

theorem Acquisition.request_ne_refreshLock (a : Acquisition) (u : RefreshLockRequest) :
    a.request ≠ .refreshLock u := by
  unfold Acquisition.request
  split <;> simp

/-- The request that starts the lease of a grant anew. -/
def Grant.refreshRequest (g : Grant) : RefreshLockRequest := .ofSeconds g.name g.key g.lease

/-- The renewer keeps the lock of the grant, and whatever call it has
under way says so. -/
structure Renewer.Serves (r : Renewer) (g : Grant) : Prop where
  name : r.name = g.name
  key : r.key = g.key
  lease : r.lease = g.lease
  faithful : r.IsFaithful

theorem Renewer.Serves.request {r : Renewer} {g : Grant} (h : r.Serves g) :
    r.request = g.refreshRequest := by
  unfold Renewer.request Grant.refreshRequest
  rw [h.name, h.key, h.lease]

theorem Renewer.Serves.sameLock {r r' : Renewer} {g : Grant} (h : r.Serves g)
    (hsame : r.SameLock r') (hf : r'.IsFaithful) : r'.Serves g :=
  ⟨hsame.name.trans h.name, hsame.key.trans h.key, hsame.lease.trans h.lease, hf⟩

namespace Lifecycle

variable {now : Nat} {autoRefresh : Bool} {g : Option Grant} {l : Lifecycle} {e : Event}
  {step : Step Lifecycle OwnerResult} {sent : Option Request} {r : Renewer}

/-! ## A renewer that nobody asked to end -/

/-- `Tended now l e sent r`: the event `e` leaves the life `l` the renewer
`r`, and `sent` is sent. -/
inductive Tended (now : Nat) (l : Lifecycle) (e : Event) (sent : Option Request) : Renewer → Prop
  | started {policy grant} : Moment.grant? ⟨now, e, l⟩ = some grant → sent = none →
      Tended now l e sent
        { policy, name := grant.name, key := grant.key, lease := grant.lease }
  | same {x} : l.renewer? = some x → (∀ reply, e ≠ .answer (.refreshed reply)) →
      sent.any (·.operation == .refreshLock) = false → Tended now l e sent x
  | woken {x} : l.renewer? = some x → e = .wake .renewer → sent = (x.wake now).sent →
      Tended now l e sent (x.wake now).next
  | answered {x reply} : l.renewer? = some x → e = .answer (.refreshed reply) → sent = none →
      Tended now l e sent (x.answer now reply).next

/-- Who has a renewer is granted nothing. -/
theorem Consistent.grant?_of_renewer (h : Consistent autoRefresh g l) (hr : l.renewer? = some r) :
    Moment.grant? ⟨now, e, l⟩ = none := by
  apply h.grant?_eq_none
  rintro s activity rfl hst
  have hs := h.fits
  simp only [Session.Fits, hst] at hs
  exact absurd (hr.symm.trans hs.2.1) (by simp)

theorem tended_of_move (h : Consistent autoRefresh g l) (hm : Move now l e step)
    (hr : step.next.renewer? = some r) (hc : r.cancelled = false) :
    Tended now l e step.sent r := by
  have hnot (hall : RenewalCancelled step.next.renewer?) : Tended now l e step.sent r :=
    absurd (hc.symm.trans (hall r hr)) (by simp)
  cases hm with
  | @stay l e hig =>
      refine .same hr ?_ rfl
      rintro reply rfl
      have hnone : l.renewer? = none := by
        cases l with
        | owned s activity => cases activity <;> exact hig
        | _ => exact hig
      exact absurd (hr.symm.trans hnone) (by simp)
  | @renewerWakes l r₀ hr₀ =>
      obtain rfl : (r₀.wake now).next = r := by
        simpa [Step.silent, Step.lift] using hr
      exact .woken hr₀ rfl rfl
  | @renewerAnswered l r₀ reply hr₀ =>
      obtain rfl : (r₀.answer now reply).next = r := by
        simpa [Step.silent, Step.lift] using hr
      exact .answered hr₀ rfl Renewer.answer_sent
  | @granted s a run reply key log hw hkey =>
      have hgrant : Moment.grant? ⟨now, .answer (.acquired reply), .owned s (.acquiring a run)⟩ =
          some ⟨a.name, key, a.options.lease⟩ := by
        simp [Moment.grant?, hw, hkey]
      have hs := h.fits
      simp only [Session.Fits, h.activity_fits.1] at hs
      simp only [Lifecycle.renewer?, Session.grant_renewer] at hr
      split at hr
      · obtain rfl := Option.some.inj hr
        exact .started hgrant rfl
      · exact absurd (hr.symm.trans hs.2.1) (by simp)
  | releaseWaits ha _ _ =>
      have ht := h.awaitsEnd ha
      exact hnot (ht.2.2.2.2 ht.activity_fits)
  | @releaseBreaks s activity e t r₀ text ha hr₀ _ =>
      have ht := h.awaitsEnd ha
      have hcancelled : r₀.cancelled = true := ht.2.2.2.2 ht.activity_fits r₀ hr₀
      obtain rfl := Option.some.inj hr
      exact absurd (hc.symm.trans hcancelled) (by simp)
  | letGo _ => exact hnot (renewalCancelled_map _)
  | @backgroundWaits b t r ha _ _ =>
      obtain ⟨-, grant, -, -, hall⟩ := h.backgroundAwaits ha
      exact hnot hall
  | releaseUnlocks _ _ _ | releaseLost _ _ | backgroundBreaks _ _ _ | backgroundUnlocks _ _ =>
      exact absurd hr (by simp [Lifecycle.renewer?, Session.forgetRenewer, Step.stay,
        BackgroundRelease.beginUnlock])
  | @acquireBegun s a _ =>
      refine .same hr (by simp) ?_
      unfold Acquisition.request
      split <;> rfl
  | acquireRetried hrun =>
      have hs := h.fits
      simp only [Session.Fits, h.activity_fits.1] at hs
      exact absurd (hr.symm.trans hs.2.1) (by simp)
  | _ => exact .same hr (by simp) rfl

/-- The renewer, unless it was asked to end, serves what was granted. -/
def Served (g : Option Grant) (l : Lifecycle) : Prop :=
  ∀ r, l.renewer? = some r → r.cancelled = false → ∃ grant, g = some grant ∧ r.Serves grant

theorem served_of_move (h : Consistent autoRefresh g l) (hm : Move now l e step)
    (hserved : Served g l) : Served (g.or (Moment.grant? ⟨now, e, l⟩)) step.next := by
  intro r hr hc
  have hold {r₀ : Renewer} (hr₀ : l.renewer? = some r₀) (hc₀ : r₀.cancelled = false) :
      ∃ grant, g.or (Moment.grant? ⟨now, e, l⟩) = some grant ∧ r₀.Serves grant := by
    obtain ⟨grant, hg, hserves⟩ := hserved r₀ hr₀ hc₀
    exact ⟨grant, by rw [hg, Option.some_or], hserves⟩
  cases tended_of_move h hm hr hc with
  | @started policy grant hgrant _ =>
      have hnone : g = none := by
        cases hg : g with
        | none => rfl
        | some grant' => exact absurd (hgrant.symm.trans (hg ▸ h).grant?_of_granted) (by simp)
      refine ⟨grant, by rw [hnone, Option.none_or, hgrant], rfl, rfl, rfl, ?_⟩
      exact Renewer.isFaithful_of_stage rfl
  | same hr₀ _ _ => exact hold hr₀ hc
  | @woken r₀ hr₀ _ _ =>
      have hs := r₀.wakes_of_wake now
      obtain ⟨grant, hg, hserves⟩ := hold hr₀ (Renewer.wake_flags.1.symm.trans hc)
      exact ⟨grant, hg, hserves.sameLock hs.sameLock (hs.faithful hserves.faithful).1⟩
  | @answered r₀ reply hr₀ _ _ =>
      have hs := r₀.answers_of_answer now reply
      obtain ⟨grant, hg, hserves⟩ := hold hr₀ (Renewer.answer_flags.1.symm.trans hc)
      exact ⟨grant, hg, hserves.sameLock hs.sameLock (hs.faithful hserves.faithful)⟩

theorem served_of_run (policy : RetryPolicy) (autoRefresh : Bool) (es : List (Nat × Event)) :
    Served (granted ((new policy autoRefresh).moments es)) ((new policy autoRefresh).after es) := by
  refine run_induction (P := fun ms l => Served (granted ms) l) ?_ ?_ es
  · intro r hr
    cases hr
  · intro es now e h
    rw [granted_concat]
    exact served_of_move (consistent_run policy autoRefresh es) (step_move _ _ _) h

/-- A renewal is sent by the renewer, when it goes on. -/
theorem wake_of_sent (h : Consistent autoRefresh g l) (hm : Move now l e step)
    {u : RefreshLockRequest} (hsent : step.sent = some (.refreshLock u)) :
    ∃ r, l.renewer? = some r ∧ (r.wake now).sent = some (.refreshLock u) := by
  cases hm with
  | @renewerWakes l r hr => exact ⟨r, hr, hsent⟩
  | renewerAnswered reply hr => exact absurd (Renewer.answer_sent.symm.trans hsent) (by simp)
  | @acquireBegun s a _ => exact absurd (Option.some.inj hsent) (a.request_ne_refreshLock u)
  | @acquireRetried s a run run' hrun =>
      have hsame : run'.request = a.request :=
        (Run.resume?_eq_some hrun).2.1.trans h.activity_fits.2.2
      exact absurd (hsame.symm.trans (Option.some.inj hsent)) (a.request_ne_refreshLock u)
  | _ => cases hsent

/-- Every renewal asks for the lease of the grant, under its name and key. -/
theorem refreshRequest_of_sent (h : Consistent autoRefresh g l) (hserved : Served g l)
    (hm : Move now l e step) {u : RefreshLockRequest} (hsent : step.sent = some (.refreshLock u)) :
    ∃ grant, g = some grant ∧ u = grant.refreshRequest := by
  obtain ⟨r, hr, hwake⟩ := wake_of_sent h hm hsent
  obtain ⟨grant, hg, hserves⟩ := hserved r hr (Renewer.wake_sent hwake).1
  have hu := ((r.wakes_of_wake now).faithful hserves.faithful).2 _ hwake
  exact ⟨grant, hg, (Request.refreshLock.inj hu).trans hserves.request⟩

/-! ## A session that asks for its lock -/

/-- Who waits for a lock did so before, or has just begun. -/
theorem acquiring_of_move (hm : Move now l e step) {s' : Session} {a : Acquisition}
    {run : Run Request} (hn : step.next = .owned s' (.acquiring a run)) :
    ∃ s activity, l = .owned s activity ∧ ((∃ run, activity = .acquiring a run) ∨
      (s.state = .idle ∧ e = .acquire a ∧ step.sent = some a.request)) := by
  cases hm with
  | stay _ => exact ⟨_, _, hn, .inl ⟨_, rfl⟩⟩
  | renewerWakes _ | renewerAnswered _ _ =>
      obtain ⟨s, hl, -⟩ := state_of_setRenewer hn
      exact ⟨s, _, hl, .inl ⟨_, rfl⟩⟩
  | acquireBegun hb =>
      obtain ⟨-, hact⟩ := Lifecycle.owned.inj hn
      obtain ⟨rfl, -⟩ := Activity.acquiring.inj hact
      exact ⟨_, _, rfl, .inr ⟨(Session.begin_eq_ok hb).2.1, rfl, rfl⟩⟩
  | acquireRetried _ | acquirePaused _ _ =>
      obtain ⟨-, hact⟩ := Lifecycle.owned.inj hn
      obtain ⟨rfl, -⟩ := Activity.acquiring.inj hact
      exact ⟨_, _, rfl, .inl ⟨_, rfl⟩⟩
  | _ => exact absurd hn (by simp [Step.stay])

/-- Whatever asked for the lock so far was the request of the acquisition
under way; a session that is idle has not asked. -/
def Asks (ms : List Moment) (l : Lifecycle) : Prop :=
  ∀ s activity, l = .owned s activity → ∀ m ∈ ms, ∀ q, m.sent = some q → q.asks = true →
    s.state ≠ .idle ∧ ∀ a run, activity = .acquiring a run → q = a.request

/-- What asks for a lock is the request of the acquisition under way. -/
theorem Sends.asks {l' : Lifecycle} {q : Request} (h : Sends g l l' q) (hq : q.asks = true) :
    ∃ s a run, l' = .owned s (.acquiring a run) ∧ q = a.request := by
  cases h with
  | renewal _ _ hop => cases q <;> simp [Request.operation, Request.asks] at hop hq
  | firstAcquire _ | acquireAgain _ => exact ⟨_, _, _, rfl, rfl⟩
  | firstUnlock _ _ _ _ _ _ | unlockAgain _ _ _ _ _ _ => cases hq

theorem asks_of_run (policy : RetryPolicy) (autoRefresh : Bool) (es : List (Nat × Event)) :
    Asks ((new policy autoRefresh).moments es) ((new policy autoRefresh).after es) := by
  refine run_induction (P := Asks) ?_ ?_ es
  · intro s activity _ m hm
    cases hm
  intro es now e ih s' activity' hn m hm q hq hasks
  have hc := consistent_run policy autoRefresh es
  have hmove := step_move ((new policy autoRefresh).after es) now e
  have hnext := consistent_move hc hmove
  rcases List.mem_append.1 hm with hm | hm
  · -- it was sent before
    obtain ⟨s, activity, hl, hstate⟩ := state_of_move hc hmove hn
    obtain ⟨hidle, hold⟩ := ih s activity hl m hm q hq hasks
    refine ⟨?_, ?_⟩
    · rcases hstate with hsame | ⟨hlead, -⟩
      · rwa [hsame]
      · exact hlead.ne_idle
    · rintro a run rfl
      obtain ⟨s₀, activity₀, hl₀, ⟨run₀, rfl⟩ | ⟨hst, -⟩⟩ := acquiring_of_move hmove hn
      · obtain ⟨-, rfl⟩ := Lifecycle.owned.inj (hl.symm.trans hl₀)
        exact hold a run₀ rfl
      · obtain ⟨rfl, -⟩ := Lifecycle.owned.inj (hl.symm.trans hl₀)
        exact absurd hst hidle
  · obtain rfl := List.mem_singleton.1 hm
    obtain ⟨s, a, run, hl', rfl⟩ := (sends_of_move hc hmove hq).asks hasks
    obtain ⟨rfl, rfl⟩ := Lifecycle.owned.inj (hn.symm.trans hl')
    rw [hn] at hnext
    refine ⟨by simp [hnext.activity_fits.1], ?_⟩
    rintro a' run' hact
    obtain ⟨rfl, -⟩ := Activity.acquiring.inj hact
    rfl

/-- Nobody who was granted a lock asks for it. -/
theorem asks_eq_false {m : Moment} {grant : Grant} {q : Request}
    (h : Consistent autoRefresh g m.before)
    (hnext : g.or m.grant? = some grant) (hq : m.sent = some q) : q.asks = false := by
  rw [← Bool.not_eq_true]
  intro hasks
  have hmove := step_move m.before m.now m.event
  obtain ⟨s, a, run, hl, -⟩ := (sends_of_move h hmove hq).asks hasks
  have hafter := consistent_move h hmove
  rw [show g.or (Moment.grant? ⟨m.now, m.event, m.before⟩) = some grant from hnext, hl] at hafter
  have hs := hafter.fits
  simp [Session.Fits, hafter.activity_fits.1] at hs

/-- A session that was granted its lock asked for that lock, and said the
same each time. -/
theorem acquisition_of_granted {policy : RetryPolicy} {es : List (Nat × Event)} {grant : Grant}
    (hg : granted ((new policy autoRefresh).moments es) = some grant) :
    ∃ a : Acquisition, a.name = grant.name ∧ a.options.lease = grant.lease ∧
      ∀ m ∈ (new policy autoRefresh).moments es, ∀ q, m.sent = some q → q.asks = true →
        q = a.request := by
  obtain ⟨ms₁, m, ms₂, hsplit, hm, -⟩ := List.findSome?_eq_some_iff.1 hg
  obtain ⟨s, a, run, reply, key, hl, -, -, -, rfl⟩ := grant?_eq_some hm
  refine ⟨a, rfl, rfl, fun x hx q hq hasks => ?_⟩
  rw [hsplit] at hx
  rcases List.mem_append.1 hx with hx | hx
  · obtain ⟨es₁, es₂, -, rfl, hb, -⟩ := moments_split hsplit
    exact (asks_of_run policy autoRefresh es₁ s (.acquiring a run) (hb.symm.trans hl) x hx q hq
      hasks).2 a run rfl
  · -- from the grant on, nothing asks for a lock
    obtain ⟨ms₃, ms₄, hcut, hgranted⟩ : ∃ ms₃ ms₄,
        (new policy autoRefresh).moments es = ms₃ ++ x :: ms₄ ∧
          ((granted ms₃).or x.grant?).isSome = true := by
      rcases List.mem_cons.1 hx with rfl | hx
      · exact ⟨ms₁, ms₂, hsplit, by simp [hm]⟩
      · obtain ⟨ms₃, ms₄, rfl⟩ := List.append_of_mem hx
        exact ⟨ms₁ ++ m :: ms₃, ms₄, by simp [hsplit], by simp [granted, hm]⟩
    obtain ⟨grant, hgrant⟩ := Option.isSome_iff_exists.1 hgranted
    exact absurd (hasks.symm.trans (asks_eq_false (consistent_before hcut) hgrant hq)) (by simp)

/-- Everything that a session sends, but for the return of its lock, tells
the service the lease of the grant. -/
theorem lease_of_sent {policy : RetryPolicy} {es : List (Nat × Event)} {grant : Grant}
    (hg : granted ((new policy autoRefresh).moments es) = some grant) (hlease : grant.lease ≠ 0)
    {m : Moment} (hm : m ∈ (new policy autoRefresh).moments es) {q : Request}
    (hq : m.sent = some q) (hop : q.operation ≠ .unlock) :
    q.lease? = some (clampNumber grant.lease) := by
  cases hasks : q.asks with
  | true =>
      obtain ⟨a, -, ha, hall⟩ := acquisition_of_granted hg
      rw [hall m hm q hq hasks, a.request_lease, ha, nonZeroNumber, if_neg hlease]
  | false =>
      cases q with
      | lock r | tryLock r => cases hasks
      | unlock r => exact absurd rfl hop
      | refreshLock u =>
          obtain ⟨ms₁, ms₂, hsplit⟩ := List.append_of_mem hm
          obtain ⟨es₁, -, -, hms₁, hb, -⟩ := moments_split hsplit
          have hserved : Served (granted ms₁) m.before := by
            rw [hb, hms₁]
            exact served_of_run policy autoRefresh es₁
          obtain ⟨grant', hg', rfl⟩ :=
            refreshRequest_of_sent (consistent_before hsplit) hserved (step_move _ _ _) hq
          rw [hsplit, granted_append, hg', Option.some_or, Option.some.injEq] at hg
          rw [hg]
          rfl

end Lifecycle

end DistLock
