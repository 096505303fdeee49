import DistLock.Proofs.Scoped.History

/-!
# What holds along a history of a scope

* `Stands` says what the session does in each stage of the scope; so
  whatever it comes to is what the scope waits for
  (`Stands.result_of_returned`).
* `Tracks` joins that with what holds of the life under the scope, and keeps
  account of what was granted and given back. Every moment keeps it
  (`Tracks.next`), so it holds wherever a history is cut (`Tracks.split`).

The account of a session (`account_of_move`) knows of releases that were
given up. In a scope there are none before it is left, so there the
account is without them.
-/

namespace DistLock

/-- No call breaks down; the body may. -/
def ScopedEvent.isOrderly {β : Type} : ScopedEvent β → Bool
  | .answer a => (Event.answer a).isOrderly
  | _ => true

namespace ScopedMoment

variable {β : Type} {m : ScopedMoment β} {x : Moment} {s : Step (Scoped β) (ScopedResult β)}

open Lifecycle
open Scoped (Awaits)

/-- A moment of a history in which no call breaks down: the scope starts
with a fresh session, or something happens to it. -/
inductive IsProper : ScopedMoment β → Prop
  | start {now a policy autoRefresh} : IsProper ⟨now, .start a, Scoped.fresh policy autoRefresh⟩
  | event {now e s} : e.isOrderly = true → IsProper ⟨now, .event e, s⟩

theorem IsProper.orderly (hm : m.IsProper) (hx : m.Meets x) : x.event.isOrderly = true := by
  cases hx with
  | answers hcue _ =>
      cases hm with
      | start => cases hcue
      | event ho =>
          cases hcue
          exact ho
  | starts _ _ | wakes _ | releases _ _ => rfl

theorem IsProper.entering {a : Acquisition} (hm : m.IsProper) (ha : m.cue = .start a) :
    m.before.stage = .entering := by
  cases hm with
  | start => rfl
  | event _ => cases ha

end ScopedMoment

namespace Scoped

variable {β : Type} {m : ScopedMoment β} {x : Moment} {s : Scoped β}
  {step : Step (Scoped β) (ScopedResult β)}

open Lifecycle

/-! ## Where the session stands -/

/-- What the session does in each stage of the scope. -/
def Stands (s : Scoped β) : Prop :=
  match s.stage with
  | .entering => s.life.Seeks
  | .inside => ∃ h, s.life.Rests h
  | .leaving _ => s.life.Yields
  | .left => IsDropped s.life

/-- The session goes on in its stage and comes to nothing, or it comes to
what the scope waits for. -/
theorem Stands.session (hs : m.before.Stands) (hm : m.IsProper) (hx : m.Meets x) :
    (x.result = none ∧ (Scoped.mk x.after m.stage).Stands) ∨
      ∃ r, x.result = some r ∧ Awaits m.stage r ∧ IsResting x.after := by
  have hmove := step_move x.before x.now x.event
  have hwaits (hst : m.stage = m.before.stage) (hb : x.before = m.before.life)
      (he : x.event.isAnswer = true ∨ ∃ w, x.event = .wake w) :
      (x.result = none ∧ (Scoped.mk x.after m.stage).Stands) ∨
        ∃ r, x.result = some r ∧ Awaits m.stage r ∧ IsResting x.after := by
    unfold Stands at hs ⊢
    rw [hst]
    rw [← hb] at hs
    cases hstage : m.before.stage with
    | entering =>
        simp only [hstage] at hs ⊢
        rcases hs.of_move hmove (.inr he) with hgoes | ⟨o, hr, hrest⟩
        · exact .inl hgoes
        · exact .inr ⟨_, hr, trivial, hrest⟩
    | inside =>
        simp only [hstage] at hs ⊢
        obtain ⟨h, hs⟩ := hs
        exact .inl ⟨hs.result hmove he, h, hs.of_move hmove he⟩
    | leaving value =>
        simp only [hstage] at hs ⊢
        rcases hs.of_move hmove he with hgoes | ⟨o, hr, hrest⟩
        · exact .inl hgoes
        · exact .inr ⟨_, hr, trivial, hrest⟩
    | left =>
        simp only [hstage] at hs ⊢
        exact .inl ⟨result_of_dropped hs hmove, isDropped_of_move hmove (.inl hs)⟩
  cases hx with
  | starts hcue hst =>
      have hseeks : m.before.life.Seeks := by
        simpa [Stands, hm.entering hcue] using hs
      unfold Stands
      rw [hst]
      rcases hseeks.of_move hmove (.inl ⟨_, rfl⟩) with hgoes | ⟨o, hr, hrest⟩
      · exact .inl hgoes
      · exact .inr ⟨_, hr, trivial, hrest⟩
  | answers _ hst => exact hwaits hst rfl (.inl rfl)
  | wakes hst => exact hwaits hst rfl (.inr ⟨_, rfl⟩)
  | releases hret hst =>
      obtain ⟨h, hrests⟩ : ∃ h, m.before.life.Rests h := by
        simpa [Stands, hret.1] using hs
      unfold Stands
      rw [hst]
      rcases hrests.release hmove with hgoes | ⟨o, hr, hrest⟩
      · exact .inl hgoes
      · exact .inr ⟨_, hr, trivial, hrest⟩

theorem stands_of_turn (hs : m.before.Stands) (hm : m.IsProper) (ht : m.Turn step) :
    step.next.Stands := by
  cases ht with
  | idle _ _ => exact hs
  | goesOn hx hr =>
      rcases hs.session hm (ScopedMoment.meets_of_session hx) with hgoes | ⟨r, hr', hawaits, -⟩
      · exact hgoes.2
      · exact absurd hawaits (hr r hr')
  | enters _ _ hr => exact ⟨_, rests_of_acquired (step_move _ _ _) hr⟩
  | ends _ _ _ | leaves _ => exact isDropped_of_drop _ _ _

/-! ## What the scope comes to -/

/-- Whatever an operation of the session comes to is what the
scope waits for. -/
theorem Stands.returned (hs : m.before.Stands) (hm : m.IsProper) {r : OwnerResult}
    (hr : m.returned = some r) :
    ∃ x, m.session = some x ∧ x.result = some r ∧ Awaits m.stage r := by
  obtain ⟨x, hx, hxr⟩ := Option.bind_eq_some_iff.1 hr
  rcases hs.session hm (ScopedMoment.meets_of_session hx) with ⟨hnone, -⟩ | ⟨r', hr', hawaits, -⟩
  · exact absurd (hxr.symm.trans hnone) (by simp)
  · obtain rfl := Option.some.inj (hxr.symm.trans hr')
    exact ⟨x, hx, hxr, hawaits⟩

/-- What the session came to when the scope came to something. -/
theorem returned_eq {r : OwnerResult} (hx : m.session = some x) (hr : x.result = some r) :
    m.returned = some r := by
  rw [ScopedMoment.returned, hx]
  exact hr

/-- What the session comes to makes the body begin, or ends the scope. -/
theorem Stands.result_of_returned (hs : m.before.Stands) (hm : m.IsProper) {r : OwnerResult}
    (hr : m.returned = some r) :
    (∃ h, r = .acquired (.ok h) ∧ m.result = some (.entered h) ∧ m.after.stage = .inside) ∨
      ∃ outcome, Concludes m.stage r outcome ∧ m.result = some (.finished outcome) ∧
        m.after.stage = .left := by
  obtain ⟨x, hx, hxr, hawaits⟩ := hs.returned hm hr
  have ht := m.turn_of_step
  unfold ScopedMoment.result ScopedMoment.after
  generalize m.step = step at ht
  cases ht with
  | idle hidle _ => exact absurd (hx.symm.trans hidle) (by simp)
  | goesOn hx' hno =>
      obtain rfl := Option.some.inj (hx.symm.trans hx')
      exact absurd hawaits (hno _ hxr)
  | enters hx' _ hr' =>
      obtain rfl := Option.some.inj (hx.symm.trans hx')
      exact .inl ⟨_, Option.some.inj (hxr.symm.trans hr'), rfl, rfl⟩
  | ends hx' hr' hc =>
      obtain rfl := Option.some.inj (hx.symm.trans hx')
      obtain rfl := Option.some.inj (hxr.symm.trans hr')
      exact .inr ⟨_, hc, rfl, rfl⟩
  | leaves hl => exact absurd (hx.symm.trans hl.session) (by simp)

/-- The body begins when the acquisition succeeds. -/
theorem entered_iff (hs : m.before.Stands) (hm : m.IsProper) (h : LockHandle) :
    m.result = some (.entered h) ↔ m.returned = some (.acquired (.ok h)) := by
  constructor
  · intro hentered
    have ht := m.turn_of_step
    unfold ScopedMoment.result at hentered
    generalize m.step = step at ht hentered
    cases ht with
    | enters hx _ hr =>
        obtain rfl := ScopedResult.entered.inj (Option.some.inj hentered)
        exact returned_eq hx hr
    | leaves hl => cases hl <;> cases hentered
    | _ => cases hentered
  · intro hret
    rcases hs.result_of_returned hm hret with ⟨h', hr, hentered, -⟩ | ⟨outcome, hc, -⟩
    · obtain rfl : h = h' := by simpa using hr
      exact hentered
    · generalize m.stage = stage at hc
      cases hc

/-- A scope that finishes was ended by what its session came to, or by a
body that broke down. -/
theorem finished_cases {outcome : Outcome β} (h : m.result = some (.finished outcome)) :
    (∃ x r, m.session = some x ∧ x.result = some r ∧ Concludes m.stage r outcome) ∨
      m.Leaves (some (.finished outcome)) := by
  have ht := m.turn_of_step
  unfold ScopedMoment.result at h
  generalize m.step = step at ht h
  cases ht with
  | ends hx hr hc =>
      obtain rfl := ScopedResult.finished.inj (Option.some.inj h)
      exact .inl ⟨_, _, hx, hr, hc⟩
  | leaves hl =>
      obtain rfl : _ = some (ScopedResult.finished outcome) := h
      exact .inr hl
  | _ => cases h

/-! ## What is granted and given back -/

/-- What was granted in the course of a history. -/
def granted (ms : List (ScopedMoment β)) : Option Grant := ms.findSome? ScopedMoment.grant?

theorem granted_append (ms ms' : List (ScopedMoment β)) :
    granted (ms ++ ms') = (granted ms).or (granted ms') := List.findSome?_append

theorem granted_concat (ms : List (ScopedMoment β)) (m : ScopedMoment β) :
    granted (ms ++ [m]) = (granted ms).or m.grant? := by
  rw [granted_append]
  cases h : m.grant? <;> simp [granted, h]

/-- What holds after the moments `ms` of a history. -/
structure Tracks (autoRefresh : Bool) (ms : List (ScopedMoment β)) (s : Scoped β) : Prop where
  consistent : s.life.Consistent autoRefresh (granted ms)
  intact : s.life.Intact
  stands : s.Stands
  /-- As long as the scope is not left, what began or is still
  due was granted. -/
  account : s.stage ≠ .left →
    ms.countP ScopedMoment.beginsUnlock + s.life.unlocksDue = (granted ms).isSome.toNat
  entered : ms.countP ScopedMoment.enters ≤ 1
  entering : s.stage = .entering → ms.countP ScopedMoment.enters = 0

/-- What a moment does to the life under the scope. -/
theorem life_of_turn (ht : m.Turn step) :
    (m.session = none ∧ step.sent = none ∧
        (step.next = m.before ∨
          ∃ result, m.Leaves result ∧ step.next.stage = .left ∧
            step.next.life = (m.before.life.step m.now (.drop true)).next)) ∨
      ∃ x, m.session = some x ∧ step.sent = x.sent ∧
        (step.next.life = x.after ∨ (step.next.stage = .left ∧
          step.next.life = (x.after.step m.now (.drop true)).next)) := by
  cases ht with
  | idle hx _ => exact .inl ⟨hx, rfl, .inl rfl⟩
  | goesOn hx _ => exact .inr ⟨_, hx, rfl, .inl rfl⟩
  | enters hx _ _ => exact .inr ⟨_, hx, rfl, .inl rfl⟩
  | ends hx _ _ => exact .inr ⟨_, hx, rfl, .inr ⟨rfl, rfl⟩⟩
  | leaves hl =>
      exact .inl ⟨hl.session, sent_of_drop _ _ _, .inr ⟨_, hl, rfl, rfl⟩⟩

theorem grant?_of_session (hx : m.session = some x) : m.grant? = x.grant? := by
  rw [ScopedMoment.grant?, hx]
  rfl

theorem grant?_of_idle (hx : m.session = none) : m.grant? = none := by
  rw [ScopedMoment.grant?, hx]
  rfl

theorem Tracks.consistent_next {autoRefresh : Bool} {ms : List (ScopedMoment β)}
    (h : Tracks autoRefresh ms m.before) :
    m.after.life.Consistent autoRefresh (granted (ms ++ [m])) := by
  have hdrop {g : Option Grant} {l : Lifecycle} (hl : l.Consistent autoRefresh g) :
      (l.step m.now (.drop true)).next.Consistent autoRefresh g :=
    consistent_keep hl (step_move _ _ _) (grant?_of_event (by simp))
  rw [granted_concat]
  unfold ScopedMoment.after
  rcases life_of_turn m.turn_of_step with ⟨hx, -, hnext⟩ | ⟨x, hx, -, hnext⟩
  · rw [grant?_of_idle hx, Option.or_none]
    rcases hnext with hnext | ⟨result, -, -, hnext⟩
    · rw [hnext]
      exact h.consistent
    · rw [hnext]
      exact hdrop h.consistent
  · rw [grant?_of_session hx]
    have hmove : x.after.Consistent autoRefresh ((granted ms).or x.grant?) := by
      have hb := h.consistent
      rw [← (ScopedMoment.meets_of_session hx).before] at hb
      exact consistent_move hb (step_move _ _ _)
    rcases hnext with hnext | ⟨-, hnext⟩
    · rw [hnext]
      exact hmove
    · rw [hnext]
      exact hdrop hmove

/-- What every step of a session keeps is kept by the life under a scope. -/
theorem keeps_life {P : Lifecycle → Prop}
    (keep : ∀ l now e, e.isOrderly = true → P l → P (l.step now e).next) (hm : m.IsProper)
    (h : P m.before.life) : P m.after.life := by
  unfold ScopedMoment.after
  rcases life_of_turn m.turn_of_step with ⟨-, -, hnext⟩ | ⟨x, hx, -, hnext⟩
  · rcases hnext with hnext | ⟨result, -, -, hnext⟩
    · rw [hnext]
      exact h
    · rw [hnext]
      exact keep _ _ _ rfl h
  · have hmeets := ScopedMoment.meets_of_session hx
    have hmove : P x.after := keep _ _ _ (hm.orderly hmeets) (hmeets.before ▸ h)
    rcases hnext with hnext | ⟨-, hnext⟩
    · rw [hnext]
      exact hmove
    · rw [hnext]
      exact keep _ _ _ rfl hmove

/-- What the session meets while the scope goes on keeps the account. -/
theorem Tracks.account_of_session {autoRefresh : Bool} {ms : List (ScopedMoment β)}
    (h : Tracks autoRefresh ms m.before) (hm : m.IsProper) (hx : m.session = some x) :
    (x.sent.any (·.operation == .unlock) && !m.before.life.isUnlocking).toNat +
      x.after.unlocksDue = m.before.life.unlocksDue + x.grant?.isSome.toNat := by
  have hmeets := ScopedMoment.meets_of_session hx
  have habandons : x.abandonsUnlock = false := by
    cases hmeets <;> (unfold Moment.abandonsUnlock; split <;> simp_all)
  have hc := h.consistent
  have hi := h.intact
  rw [← hmeets.before] at hc hi ⊢
  have hsum := account_of_move hc hi (hm.orderly hmeets) (step_move x.before x.now x.event)
  rw [show Moment.abandonsUnlock ⟨x.now, x.event, x.before⟩ = false from habandons] at hsum
  exact hsum

theorem sent_of_session (hx : m.session = some x) : m.sent = x.sent := by
  rcases life_of_turn m.turn_of_step with ⟨hnone, -⟩ | ⟨x', hx', hsent, -⟩
  · exact absurd (hx.symm.trans hnone) (by simp)
  · obtain rfl := Option.some.inj (hx.symm.trans hx')
    exact hsent

theorem sent_of_idle (hx : m.session = none) : m.sent = none := by
  rcases life_of_turn m.turn_of_step with ⟨-, hsent, -⟩ | ⟨x', hx', -⟩
  · exact hsent
  · exact absurd (hx'.symm.trans hx) (by simp)

/-! ## From stage to stage -/

/-- Only a body that returns makes the scope take its session
in another stage. -/
theorem stage_cases (hm : m.IsProper) :
    m.stage = m.before.stage ∨ ∃ value, m.ReturnsBody value ∧ m.stage = .leaving value := by
  cases hm with
  | start => exact .inl rfl
  | @event now e s _ =>
      cases e with
      | bodyReturned value =>
          cases hs : s.stage with
          | inside => exact .inr ⟨value, ⟨hs, rfl⟩, by simp [ScopedMoment.stage, hs]⟩
          | _ => exact .inl (by simp [ScopedMoment.stage, hs])
      | _ => exact .inl rfl

theorem stage_of_returns {value : β} (h : m.ReturnsBody value) : m.stage = .leaving value := by
  obtain ⟨hst, hcue⟩ := h
  simp [ScopedMoment.stage, hst, hcue]

/-- A moment leaves the scope, or makes its body begin, or
the scope goes on. -/
theorem stage_of_step (hm : m.IsProper) :
    (m.after.stage = .left ∧ m.enters = false) ∨
      (m.before.stage = .entering ∧ m.after.stage = .inside) ∨
      (m.after.stage = m.stage ∧ m.enters = false) := by
  have ht := m.turn_of_step
  have hcases := stage_cases hm
  unfold ScopedMoment.enters ScopedMoment.result ScopedMoment.after
  generalize m.step = step at ht
  cases ht with
  | idle hx _ =>
      rcases hcases with hst | ⟨value, ⟨hst, hcue⟩, -⟩
      · exact .inr (.inr ⟨hst.symm, rfl⟩)
      · -- the return of a body is never idle
        simp [ScopedMoment.session, ScopedMoment.meets, hst, hcue] at hx
  | goesOn _ _ => exact .inr (.inr ⟨rfl, rfl⟩)
  | enters _ hst _ =>
      rcases hcases with hsame | ⟨value, -, hleaving⟩
      · exact .inr (.inl ⟨hsame.symm.trans hst, rfl⟩)
      · exact absurd (hst.symm.trans hleaving) (by simp)
  | ends _ _ _ => exact .inl ⟨rfl, rfl⟩
  | leaves hl => cases hl <;> exact .inl ⟨rfl, rfl⟩

theorem left_of_left (hm : m.IsProper) (h : m.before.stage = .left) : m.after.stage = .left := by
  rcases stage_of_step hm with ⟨hleft, -⟩ | ⟨hst, -⟩ | ⟨hafter, -⟩
  · exact hleft
  · exact absurd (h.symm.trans hst) (by simp)
  · rcases stage_cases hm with hsame | ⟨value, ⟨hin, -⟩, -⟩
    · exact hafter.trans (hsame.trans h)
    · exact absurd (h.symm.trans hin) (by simp)

theorem Tracks.next {autoRefresh : Bool} {ms : List (ScopedMoment β)}
    (h : Tracks autoRefresh ms m.before) (hm : m.IsProper) :
    Tracks autoRefresh (ms ++ [m]) m.after where
  consistent := h.consistent_next
  intact := keeps_life
    (fun l now e ho hi => intact_of_move (step_move l now e) (not_crash_of_orderly ho) hi) hm
    h.intact
  stands := stands_of_turn h.stands hm m.turn_of_step
  account hst := by
    have hbefore : m.before.stage ≠ .left :=
      fun hleft => hst (left_of_left hm hleft)
    have hsum := h.account hbefore
    have hbegins : m.beginsUnlock =
        (m.sent.any (·.operation == .unlock) && !m.before.life.isUnlocking) := rfl
    rw [countP_concat, granted_concat, hbegins]
    rcases life_of_turn m.turn_of_step with ⟨hx, -, hnext⟩ | ⟨x, hx, -, hnext⟩
    · rcases hnext with hnext | ⟨-, -, hleft, -⟩
      · rw [grant?_of_idle hx, Option.or_none, sent_of_idle hx,
          show m.after = m.before from hnext]
        simpa using hsum
      · exact absurd hleft hst
    · rcases hnext with hnext | ⟨hleft, -⟩
      · have hstep := h.account_of_session hm hx
        have hor : ((granted ms).or x.grant?).isSome.toNat =
            (granted ms).isSome.toNat + x.grant?.isSome.toNat := by
          have hb := h.consistent
          rw [← (ScopedMoment.meets_of_session hx).before] at hb
          exact hb.isSome_or
        rw [grant?_of_session hx, hor, sent_of_session hx, show m.after.life = x.after from hnext]
        omega
      · exact absurd hleft hst
  entered := by
    have hone := h.entered
    rw [countP_concat]
    rcases stage_of_step hm with ⟨-, hno⟩ | ⟨hst, -⟩ | ⟨-, hno⟩
    · rw [hno]
      exact hone
    · rw [h.entering hst]
      exact Nat.add_le_add_left (Bool.toNat_le _) 0
    · rw [hno]
      exact hone
  entering hst := by
    rcases stage_of_step hm with ⟨hleft, -⟩ | ⟨-, hin⟩ | ⟨hafter, hno⟩
    · exact absurd (hst.symm.trans hleft) (by simp)
    · exact absurd (hst.symm.trans hin) (by simp)
    · rcases stage_cases hm with hsame | ⟨value, -, hleaving⟩
      · rw [countP_concat, h.entering (hsame.symm.trans (hafter.symm.trans hst)), hno]
        rfl
      · exact absurd (hst.symm.trans (hafter.trans hleaving)) (by simp)

/-! ## Along a history -/

/-- What happens to a scope from its start on. -/
def history (policy : RetryPolicy) (autoRefresh : Bool) (a : Acquisition) (now : Nat)
    (es : List (Nat × ScopedEvent β)) : List (ScopedMoment β) :=
  (fresh policy autoRefresh).moments (cues a now es)

/-- Where that leads. -/
def reached (policy : RetryPolicy) (autoRefresh : Bool) (a : Acquisition) (now : Nat)
    (es : List (Nat × ScopedEvent β)) : Scoped β :=
  (fresh policy autoRefresh).after (cues a now es)

theorem tracks_fresh (policy : RetryPolicy) (autoRefresh : Bool) :
    Tracks autoRefresh [] (fresh policy autoRefresh : Scoped β) where
  consistent := consistent_new policy autoRefresh
  intact := intact_new policy autoRefresh
  stands := ⟨_, _, rfl, .inl ⟨rfl, rfl⟩⟩
  account _ := rfl
  entered := Nat.zero_le 1
  entering _ := rfl

theorem proper_moments {es : List (Nat × ScopedEvent β)} (ho : ∀ p ∈ es, p.2.isOrderly = true) :
    ∀ m ∈ s.moments (es.map fun p => (p.1, .event p.2)), m.IsProper := by
  induction es generalizing s with
  | nil =>
      intro m hm
      cases hm
  | cons p es ih =>
      intro m hm
      rcases List.mem_cons.1 hm with rfl | hm
      · exact .event (ho p List.mem_cons_self)
      · exact ih (fun q hq => ho q (List.mem_cons_of_mem _ hq)) m hm

theorem proper_history {policy : RetryPolicy} {autoRefresh : Bool} {a : Acquisition} {now : Nat}
    {es : List (Nat × ScopedEvent β)} (ho : ∀ p ∈ es, p.2.isOrderly = true) :
    ∀ m ∈ history policy autoRefresh a now es, m.IsProper := by
  intro m hm
  rcases List.mem_cons.1 hm with rfl | hm
  · exact .start
  · exact proper_moments ho m hm

theorem Tracks.run {autoRefresh : Bool} {ms : List (ScopedMoment β)}
    {cues : List (Nat × ScopedCue β)} (h : Tracks autoRefresh ms s)
    (hp : ∀ m ∈ s.moments cues, m.IsProper) :
    Tracks autoRefresh (ms ++ s.moments cues) (s.after cues) :=
  history_induction (fun _ _ hm h => h.next hm) h hp

/-- What every moment keeps is met by every moment, and holds
where they lead. -/
theorem keeps_scope {P : Scoped β → Prop}
    (keep : ∀ m : ScopedMoment β, m.IsProper → P m.before → P m.after)
    {cues : List (Nat × ScopedCue β)} (h : P s) (hp : ∀ m ∈ s.moments cues, m.IsProper) :
    (∀ m ∈ s.moments cues, P m.before) ∧ P (s.after cues) := by
  induction cues generalizing s with
  | nil => exact ⟨fun m hm => (by cases hm), h⟩
  | cons p cues ih =>
      have hfirst := keep ⟨p.1, p.2, s⟩ (hp _ List.mem_cons_self) h
      obtain ⟨hall, hlast⟩ := ih hfirst fun x hx => hp x (List.mem_cons_of_mem _ hx)
      refine ⟨fun m hm => ?_, hlast⟩
      rcases List.mem_cons.1 hm with rfl | hm
      · exact h
      · exact hall m hm

/-- Wherever a history is cut, what was before is tracked, and the rest
is a history too. -/
theorem Tracks.split {autoRefresh : Bool} {ms ms₁ ms₂ : List (ScopedMoment β)}
    {cues : List (Nat × ScopedCue β)} (h : Tracks autoRefresh ms s)
    (hp : ∀ m ∈ s.moments cues, m.IsProper) (hsplit : s.moments cues = ms₁ ++ m :: ms₂) :
    m.IsProper ∧ Tracks autoRefresh (ms ++ ms₁) m.before ∧
      ∃ rest, ms₂ = m.after.moments rest ∧ s.after cues = m.after.after rest ∧
        ∀ x ∈ m.after.moments rest, x.IsProper := by
  obtain ⟨cues₁, rest, -, hms₁, hb, hms₂, hafter⟩ := moments_split hsplit
  rw [hsplit] at hp
  refine ⟨hp m (by simp), ?_, rest, hms₂, hafter, fun x hx => hp x (by simp [hms₂, hx])⟩
  rw [hb, hms₁]
  exact h.run fun x hx => hp x (by rw [hms₁]; exact List.mem_append_left _ hx)

end Scoped

end DistLock
