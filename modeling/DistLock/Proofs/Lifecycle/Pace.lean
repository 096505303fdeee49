import Mathlib.Data.List.Chain
import DistLock.Proofs.Lifecycle.Requests

/-!
# Leases are kept alive

A run is punctual if time never passes what a worker waits for
(`IsPunctual`). In a punctual run the renewer of a lock keeps its pace
(`paced_of_run`): each renewal begins one pause after the one before it was
answered. A renewal that is answered soon enough is then over before the
lease runs out (`lease_kept_alive`).

The service is told no more than `maxFieldNumber` seconds, and the interval
is reckoned from the lease itself. Of a lease for which that makes a
difference the interval is longer than the longest sleep, and that is short
enough (`refreshPause_add_margin`).

Times and pauses are in milliseconds, leases and intervals in seconds.
-/

namespace DistLock

namespace Moment

/-- The first attempt of a renewal. -/
def beginsRefresh (m : Moment) : Bool :=
  m.sends .refreshLock && !m.before.renewer?.any (·.isRefreshing)

/-- A renewal is answered, and the lock is held. -/
def refreshed (m : Moment) : Bool :=
  match m.event with
  | .answer (.refreshed reply) => m.before.renewer?.any (·.isListening) && reply.isLocked
  | _ => false

/-- The lease starts, or starts anew. -/
def renews (m : Moment) : Bool := m.grant?.isSome || m.refreshed

end Moment

/-- When something of the kind last happened. -/
def lastTime (p : Moment → Bool) (ms : List Moment) : Option Nat :=
  (ms.filter p).getLast?.map (·.now)

theorem lastTime_concat (p : Moment → Bool) (ms : List Moment) (m : Moment) :
    lastTime p (ms ++ [m]) = if p m then some m.now else lastTime p ms := by
  unfold lastTime
  rw [List.filter_append]
  cases h : p m <;> simp [h]

/-- Time goes on from one moment to the next, but not past what the
worker waits for. -/
def IsPunctual (w : Worker) (ms : List Moment) : Prop :=
  ms.IsChain fun x m => x.now ≤ m.now ∧ ∀ t ∈ m.before.dueAt w, m.now ≤ max x.now t

/-- Every renewal that is answered is answered within the time. -/
def AnsweredWithin (limit : Nat) (ms : List Moment) : Prop :=
  ∀ ms₁ m ms₂, ms = ms₁ ++ m :: ms₂ → m.refreshed = true →
    ∀ begun ∈ lastTime Moment.beginsRefresh ms₁, m.now < begun + limit

/-- Only so many moments have to be looked at. -/
theorem answeredWithin_iff {limit : Nat} {ms : List Moment} :
    AnsweredWithin limit ms ↔ ∀ i : Fin ms.length, ms[i].refreshed = true →
      ∀ begun ∈ lastTime Moment.beginsRefresh (ms.take i), ms[i].now < begun + limit := by
  constructor
  · intro h i
    exact h (ms.take i) ms[i] (ms.drop (i + 1)) (by simp)
  · rintro h ms₁ m ms₂ rfl
    simpa using h ⟨ms₁.length, by simp⟩

instance (w : Worker) (ms : List Moment) : Decidable (IsPunctual w ms) :=
  inferInstanceAs (Decidable (List.IsChain _ _))

instance (limit : Nat) (ms : List Moment) : Decidable (AnsweredWithin limit ms) :=
  decidable_of_iff _ answeredWithin_iff.symm

namespace Lifecycle

variable {autoRefresh : Bool} {g : Option Grant} {l : Lifecycle} {ms : List Moment} {m : Moment}

/-- A renewer that nobody asked to end keeps its pace. -/
def Paced (ms : List Moment) (l : Lifecycle) : Prop :=
  ∀ r, l.renewer? = some r → r.cancelled = false →
    ∃ since last, lastTime Moment.renews ms = some since ∧ ms.getLast? = some last ∧
      r.Paced since (lastTime Moment.beginsRefresh ms) last.now

theorem paced_next (hc : Consistent autoRefresh g m.before) (h : Paced ms m.before)
    (hp : ∀ x ∈ ms.getLast?, x.now ≤ m.now ∧
      ∀ t ∈ m.before.dueAt .renewer, m.now ≤ max x.now t) :
    Paced (ms ++ [m]) m.after := by
  intro r hr hcancel
  -- where the renewer that was there before stands now
  have hbefore {x : Renewer} (hx : m.before.renewer? = some x) (hxc : x.cancelled = false) :
      ∃ since, lastTime Moment.renews ms = some since ∧
        x.Paced since (lastTime Moment.beginsRefresh ms) m.now := by
    obtain ⟨since, last, hsince, hlast, hpace⟩ := h x hx hxc
    obtain ⟨hle, hdue⟩ := hp last hlast
    refine ⟨since, hsince, hpace.wait hxc hle fun t ht => hdue t ?_⟩
    simp [dueAt, hx, ht]
  have hgrant {x : Renewer} (hx : m.before.renewer? = some x) : m.grant? = none :=
    hc.grant?_of_renewer hx
  suffices hnow : ∃ since,
      (if m.renews then some m.now else lastTime Moment.renews ms) = some since ∧
      r.Paced since (if m.beginsRefresh then some m.now else lastTime Moment.beginsRefresh ms)
        m.now by
    obtain ⟨since, hsince, hpace⟩ := hnow
    refine ⟨since, m, ?_, by simp, ?_⟩
    · rw [lastTime_concat, hsince]
    · rw [lastTime_concat]
      exact hpace
  cases tended_of_move hc (step_move m.before m.now m.event) hr hcancel with
  | started hg _ =>
      have hrenews : m.renews = true := by
        simp [Moment.renews, show m.grant? = _ from hg]
      rw [hrenews]
      exact ⟨m.now, rfl, rfl⟩
  | same hx hne hsent =>
      have hrenews : m.renews = false := by
        rw [Moment.renews, hgrant hx]
        unfold Moment.refreshed
        split
        · rename_i reply he
          exact absurd he (hne reply)
        · rfl
      have hbegins : m.beginsRefresh = false := by
        rw [Moment.beginsRefresh, show m.sends .refreshLock = false from hsent]
        rfl
      rw [hrenews, hbegins]
      exact hbefore hx hcancel
  | @woken x hx he hsent =>
      have hrenews : m.renews = false := by
        rw [Moment.renews, hgrant hx, Moment.refreshed, he]
        rfl
      have hbegins : m.beginsRefresh = ((x.wake m.now).sent.isSome && !x.isRefreshing) := by
        rw [Moment.beginsRefresh, hx, Moment.sends, show m.sent = (x.wake m.now).sent from hsent]
        cases hq : (x.wake m.now).sent with
        | none => rfl
        | some q => simp [(Renewer.wake_sent hq).2]
      obtain ⟨since, hsince, hpace⟩ := hbefore hx (Renewer.wake_flags.1.symm.trans hcancel)
      rw [hrenews, hbegins]
      exact ⟨since, hsince, hpace.wake (x.wakes_of_wake m.now)⟩
  | @answered x reply hx he hsent =>
      have hrenews : m.renews = (x.isListening && reply.isLocked) := by
        simp [Moment.renews, hgrant hx, Moment.refreshed, he, hx]
      have hbegins : m.beginsRefresh = false := by
        rw [Moment.beginsRefresh, Moment.sends, show m.sent = none from hsent]
        rfl
      obtain ⟨since, hsince, hpace⟩ := hbefore hx (Renewer.answer_flags.1.symm.trans hcancel)
      have hpace' := hpace.answer (x.answers_of_answer m.now reply)
      rw [hrenews, hbegins]
      cases hlocked : x.isListening && reply.isLocked with
      | true =>
          rw [hlocked] at hpace'
          exact ⟨m.now, rfl, hpace'⟩
      | false =>
          rw [hlocked] at hpace'
          exact ⟨since, hsince, hpace'⟩

theorem paced_of_run (policy : RetryPolicy) (autoRefresh : Bool) (es : List (Nat × Event))
    (hp : IsPunctual .renewer ((new policy autoRefresh).moments es)) :
    Paced ((new policy autoRefresh).moments es) ((new policy autoRefresh).after es) := by
  refine run_induction (P := fun ms l => IsPunctual .renewer ms → Paced ms l) ?_ ?_ es hp
  · intro _ r hr
    cases hr
  · intro es now e ih hp
    obtain ⟨hbefore, -, hlast⟩ := List.isChain_append.1 hp
    exact paced_next (m := ⟨now, e, _⟩) (consistent_run policy autoRefresh es) (ih hbefore)
      fun x hx => hlast x hx _ rfl

/-! ## A renewal at a time -/

variable {policy : RetryPolicy} {es : List (Nat × Event)} {ms₁ ms₂ : List Moment} {grant : Grant}
  {r : Renewer}

/-- Where a renewer that nobody asked to end stands at a moment of
a punctual run. -/
theorem paced_of_split (hp : IsPunctual .renewer ((new policy autoRefresh).moments es))
    (hsplit : (new policy autoRefresh).moments es = ms₁ ++ m :: ms₂)
    (hg : granted ((new policy autoRefresh).moments es) = some grant)
    (hr : m.before.renewer? = some r) (hc : r.cancelled = false) :
    ∃ since, lastTime Moment.renews ms₁ = some since ∧
      r.Paced since (lastTime Moment.beginsRefresh ms₁) m.now ∧ r.lease = grant.lease := by
  obtain ⟨es₁, -, -, hms₁, hb, -⟩ := moments_split hsplit
  rw [hsplit] at hp
  obtain ⟨hbefore, -, hlast⟩ := List.isChain_append.1 hp
  have hpaced : Paced ms₁ m.before := by
    rw [hb, hms₁] at *
    exact paced_of_run policy autoRefresh es₁ hbefore
  have hserved : Served (granted ms₁) m.before := by
    rw [hb, hms₁]
    exact served_of_run policy autoRefresh es₁
  obtain ⟨since, last, hsince, hx, hpace⟩ := hpaced r hr hc
  obtain ⟨hle, hdue⟩ := hlast last hx m rfl
  obtain ⟨grant', hg', hserves⟩ := hserved r hr hc
  rw [hsplit, granted_append, hg', Option.some_or, Option.some.injEq] at hg
  refine ⟨since, hsince, hpace.wait hc hle fun t ht => hdue t ?_, hg ▸ hserves.lease⟩
  simp [dueAt, hr, ht]

/-- A renewal is answered one pause after the lease last began, and within
the time that it takes. -/
theorem refreshed_in_time {limit : Nat}
    (hp : IsPunctual .renewer ((new policy autoRefresh).moments es))
    (ha : AnsweredWithin limit ((new policy autoRefresh).moments es))
    (hg : granted ((new policy autoRefresh).moments es) = some grant)
    (hsplit : (new policy autoRefresh).moments es = ms₁ ++ m :: ms₂) (hm : m.refreshed = true) :
    ∃ since, lastTime Moment.renews ms₁ = some since ∧
      since + refreshPause grant.lease ≤ m.now ∧
      m.now < since + refreshPause grant.lease + limit := by
  obtain ⟨r, hr, hlisten⟩ : ∃ r, m.before.renewer? = some r ∧ r.isListening = true := by
    unfold Moment.refreshed at hm
    split at hm
    · rw [Bool.and_eq_true] at hm
      exact (Option.any_eq_true _ _).1 hm.1
    · cases hm
  obtain ⟨hwait, hc⟩ : r.isWaiting = true ∧ r.cancelled = false := by
    simpa [Renewer.isListening] using hlisten
  obtain ⟨run, hst⟩ := Renewer.exists_run_of_isWaiting hwait
  obtain ⟨since, hsince, hpace, hlease⟩ := paced_of_split hp hsplit hg hr hc
  obtain ⟨hbegun, hle⟩ := hpace.of_refreshing hst
  rw [Renewer.pause, hlease] at hbegun hle
  exact ⟨since, hsince, hle, ha ms₁ m ms₂ hsplit hm _ hbegun⟩

/-- As long as the renewer works and no renewal takes longer than the limit,
no more time has passed since the lease last began. -/
theorem elapsed_while_alive {limit : Nat}
    (hp : IsPunctual .renewer ((new policy autoRefresh).moments es))
    (hg : granted ((new policy autoRefresh).moments es) = some grant)
    (hsplit : (new policy autoRefresh).moments es = ms₁ ++ m :: ms₂)
    (hr : m.before.renewer? = some r) (hc : r.cancelled = false) (halive : r.isAlive = true)
    (hlimit : r.isRefreshing = true →
      ∀ begun ∈ lastTime Moment.beginsRefresh ms₁, m.now < begun + limit) (hpos : 0 < limit) :
    ∃ since, lastTime Moment.renews ms₁ = some since ∧
      m.now < since + refreshPause grant.lease + limit := by
  obtain ⟨since, hsince, hpace, hlease⟩ := paced_of_split hp hsplit hg hr hc
  refine ⟨since, hsince, ?_⟩
  rw [← hlease, ← Renewer.pause]
  unfold Renewer.Paced at hpace
  cases hst : r.stage with
  | ready =>
      simp only [hst] at hpace
      omega
  | sleeping due =>
      simp only [hst] at hpace
      omega
  | refreshing run =>
      simp only [hst] at hpace
      exact hlimit (by simp [Renewer.isRefreshing, hst]) _ hpace.1
  | ended error | crashed text => simp [Renewer.isAlive, hst] at halive

/-! ## Leases -/

/-- What the service is told of a number. -/
theorem toNat_clampNumber (n : UInt32) :
    (clampNumber n).toNatClampNeg = min n.toNat maxFieldNumber := by
  have hlt : min n.toNat maxFieldNumber < 2 ^ 31 := by
    unfold maxFieldNumber
    omega
  exact Int32.toNatClampNeg_ofNat_of_lt hlt

/-- A lease that is long enough is renewed with the whole margin ahead, also
as the service was told of it. -/
theorem refreshPause_add_margin {lease : UInt32} (h : 40 ≤ lease.toNat) :
    refreshPause lease + 1000 * refreshMarginSeconds ≤
      1000 * (clampNumber lease).toNatClampNeg := by
  rw [toNat_clampNumber]
  unfold refreshPause sleepTime longestSleep refreshInterval refreshMarginSeconds minRefreshSeconds
    maxFieldNumber
  omega

/-- **Leases are kept alive.** In a punctual run in which each renewal is
answered within the margin, a lease of at least forty seconds is renewed
before what the service was told of it runs out; and as long as the renewer
works, and its renewals take no longer than that, it has not run out. -/
theorem lease_kept_alive (policy : RetryPolicy) (autoRefresh : Bool) (es : List (Nat × Event))
    (grant : Grant) (hg : granted ((new policy autoRefresh).moments es) = some grant)
    (hlease : 40 ≤ grant.lease.toNat)
    (hp : IsPunctual .renewer ((new policy autoRefresh).moments es))
    (ha : AnsweredWithin 30000 ((new policy autoRefresh).moments es)) :
    let ms := (new policy autoRefresh).moments es
    let told := clampNumber grant.lease
    (∀ m ∈ ms, ∀ q, m.sent = some q → q.operation ≠ .unlock → q.lease? = some told) ∧
    (∀ ms₁ m ms₂, ms = ms₁ ++ m :: ms₂ → m.refreshed = true →
      ∃ since, lastTime Moment.renews ms₁ = some since ∧
        m.now < since + 1000 * told.toNatClampNeg) ∧
    ∀ ms₁ m ms₂ r, ms = ms₁ ++ m :: ms₂ → m.before.renewer? = some r → r.cancelled = false →
      r.isAlive = true →
      (r.isRefreshing = true →
        ∀ begun ∈ lastTime Moment.beginsRefresh ms₁, m.now < begun + 30000) →
      ∃ since, lastTime Moment.renews ms₁ = some since ∧
        m.now < since + 1000 * told.toNatClampNeg := by
  intro ms told
  have hmargin : refreshPause grant.lease + 1000 * refreshMarginSeconds ≤
      1000 * told.toNatClampNeg := refreshPause_add_margin hlease
  have hpositive : grant.lease ≠ 0 := by
    intro hzero
    simp [hzero] at hlease
  simp only [refreshMarginSeconds] at hmargin
  refine ⟨fun m hm q hq hop => lease_of_sent hg hpositive hm hq hop, ?_, ?_⟩
  · intro ms₁ m ms₂ hsplit hm
    obtain ⟨since, hsince, -, hlt⟩ := refreshed_in_time hp ha hg hsplit hm
    exact ⟨since, hsince, by omega⟩
  · intro ms₁ m ms₂ r hsplit hr hc halive hlimit
    obtain ⟨since, hsince, hlt⟩ :=
      elapsed_while_alive hp hg hsplit hr hc halive hlimit (by omega)
    exact ⟨since, hsince, by omega⟩

/-- A run in which a lease is renewed once, as soon as it is due. -/
def renewedRun (lease : UInt32) : List (Nat × Event) :=
  [(0, .acquire ⟨false, "job-42", { lease }⟩),
    (0, .answer (.acquired (.response (.granted "job-42" "key-1")))), (0, .wake .renewer),
    (refreshPause lease, .wake .renewer),
    (refreshPause lease + 250, .answer (.refreshed (.response (.granted "job-42" "key-1"))))]

/-- The longest lease is renewed after thirty years, when more than half is
left of what the service was told of it. -/
theorem lease_kept_alive_longest :
    ∃ ms₁ m, (new {} true).moments (renewedRun 4294967295) = ms₁ ++ [m] ∧ m.refreshed = true ∧
      lastTime Moment.renews ms₁ = some 0 ∧ m.now = 946080000250 ∧
      m.now < 0 + 1000 * (clampNumber 4294967295).toNatClampNeg := by
  have hg : granted ((new {} true).moments (renewedRun 4294967295)) =
      some ⟨"job-42", "key-1", 4294967295⟩ := by
    decide
  obtain ⟨-, hrefreshed, -⟩ := lease_kept_alive {} true (renewedRun 4294967295) _ hg (by decide)
    (by decide) (by decide)
  obtain ⟨since, hsince, hlt⟩ :=
    hrefreshed ((new {} true).moments (renewedRun 4294967295 |>.take 4)) _ [] rfl (by decide)
  obtain rfl : 0 = since := Option.some.inj ((by decide : _ = some 0).symm.trans hsince)
  exact ⟨(new {} true).moments (renewedRun 4294967295 |>.take 4), _, rfl, by decide, by decide,
    by decide, hlt⟩

end Lifecycle

end DistLock
