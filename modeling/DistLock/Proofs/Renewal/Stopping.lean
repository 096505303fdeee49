import DistLock.Proofs.Renewal.Course

/-!
# A stop takes no time

`Halt` is a renewer with a clock and with somebody who stops it: begins a
stop, polls it, abandons it and begins another. Whatever the renewer is
doing, the replies to its calls come when they come or never, and time
passes only while nobody can go on.

* While a stop is under way the clock stands
  (`prompt_of_reachable`): until the renewer has ended, it can go
  on, and after that the one who stops it can.
* The next turn of the renewer ends it, and then the stop returns
  (`Prompt.returns`).
-/

namespace DistLock

namespace Renewer

variable {r : Renewer} {now : Nat} {reply : Reply LockResponse}

theorem isBroken_eq (r : Renewer) : r.isBroken = (r.hasCrashed && !r.joined) := by
  cases hst : r.stage <;> simp [isBroken, hasCrashed, hst]

/-- Time alone breaks no renewer. -/
theorem wake_isBroken (hb : r.isBroken = false) : (r.wake now).next.isBroken = false := by
  rw [isBroken_eq] at hb ⊢
  rw [wake_flags.2]
  cases hcrash : (r.wake now).next.hasCrashed with
  | false => rfl
  | true =>
      rw [wake_breaksDown hcrash] at hb
      exact hb

/-- A reply that comes after it was asked to end breaks no renewer. -/
theorem answer_isBroken (hc : r.cancelled = true) (hb : r.isBroken = false) :
    (r.answer now reply).next.isBroken = false := by
  rw [isBroken_eq] at hb ⊢
  rw [answer_flags.2]
  cases hcrash : (r.answer now reply).next.hasCrashed with
  | false => rfl
  | true =>
      rw [(answer_of_cancelled hc).2 hcrash] at hb
      exact hb

end Renewer

/-- A renewer with a clock, and with somebody who stops it. -/
structure Halt where
  now : Nat
  renewer : Renewer
  /-- When the stop that is under way began. -/
  since : Option Nat := none
  /-- When each stop began that returned, when it returned, and with what. -/
  returned : List (Nat × Nat × Outcome Unit) := []

namespace Halt

variable {h h' : Halt} {r : Renewer} {start : Nat}

/-- The renewer may go on. -/
def wake (h : Halt) : Halt := { h with renewer := (h.renewer.wake h.now).next }

/-- A reply to the call of the renewer arrives. -/
def answer (h : Halt) (reply : Reply LockResponse) : Halt :=
  { h with renewer := (h.renewer.answer h.now reply).next }

/-- The stop under way goes on: it asks the renewer to end, and returns when
that has ended. -/
def poll (h : Halt) : Halt :=
  match h.since with
  | none => h
  | some since =>
    let j := h.renewer.cancel.join
    match j.result with
    | none => { h with renewer := j.next }
    | some outcome =>
      { h with
        renewer := j.next
        since := none
        returned := h.returned ++ [(since, h.now, outcome)] }

/-- Another stop begins. -/
def begin (h : Halt) : Halt := poll { h with since := some h.now }

/-- What can happen next. -/
inductive Next (h : Halt) : Halt → Prop
  /-- Time passes, but not while the renewer or the one who
  stops it can go on. -/
  | passes {later} : h.now ≤ later → (∀ t, h.renewer.dueAt = some t → later ≤ max h.now t) →
      (h.since.isSome = true → h.renewer.isAlive = false → later ≤ h.now) →
      Next h { h with now := later }
  | wakes : Next h h.wake
  | answered (reply) : Next h (h.answer reply)
  | begins : h.since = none → Next h h.begin
  | polled : Next h h.poll
  | abandoned : Next h { h with since := none }

/-- What can come of a renewer that somebody stops. -/
def Reachable (start : Nat) (r : Renewer) : Halt → Prop :=
  Relation.ReflTransGen Next { now := start, renewer := r }

/-! ## The end of a renewer -/

/-- Whoever asks for the end of a renewer that is over is told it at once. -/
theorem exists_join_of_over (hr : r.isAlive = false) : ∃ outcome, r.join.result = some outcome := by
  have hrunning : r.isRunning = false := by
    rw [Renewer.isRunning, hr]
    rfl
  by_cases hbroken : r.isBroken = true
  · obtain ⟨text, hresult, -⟩ := Renewer.join_broken hbroken
    exact ⟨_, hresult⟩
  · rcases Renewer.join_over hrunning (Bool.eq_false_iff.2 hbroken) with hresult | ⟨e, hresult⟩
    · exact ⟨_, hresult⟩
    · exact ⟨_, hresult⟩

/-- A stop waits as long as there is nothing to be told. -/
theorem poll_waits {since : Nat} (hs : h.since = some since)
    (hresult : h.renewer.cancel.join.result = none) :
    h.poll = { h with renewer := h.renewer.cancel.join.next } := by
  simp only [poll, hs, hresult]

/-- A stop returns what it is told. -/
theorem poll_returns {since : Nat} {outcome : Outcome Unit} (hs : h.since = some since)
    (hresult : h.renewer.cancel.join.result = some outcome) :
    h.poll = { h with
      renewer := h.renewer.cancel.join.next
      since := none
      returned := h.returned ++ [(since, h.now, outcome)] } := by
  simp only [poll, hs, hresult]

/-! ## The clock stands -/

/-- The stop under way began just now and has asked the renewer to end, and
every other one has returned when it began. -/
structure Prompt (h : Halt) : Prop where
  waits : ∀ since, h.since = some since → since = h.now ∧ h.renewer.cancelled = true
  returned : ∀ p ∈ h.returned, p.1 = p.2.1

/-- A stop that began just now goes on, and may return. -/
theorem prompt_poll (hwaits : ∀ since, h.since = some since → since = h.now)
    (hreturned : ∀ p ∈ h.returned, p.1 = p.2.1) : h.poll.Prompt := by
  cases hs : h.since with
  | none =>
      rw [show h.poll = h by simp only [poll, hs]]
      refine ⟨?_, hreturned⟩
      intro since hsince
      rw [hs] at hsince
      cases hsince
  | some since =>
      have hnow : since = h.now := hwaits since hs
      cases hresult : h.renewer.cancel.join.result with
      | none =>
          rw [poll_waits hs hresult]
          refine ⟨?_, hreturned⟩
          intro since' hsince
          exact ⟨hwaits since' hsince, Renewer.join_cancelled _⟩
      | some outcome =>
          rw [poll_returns hs hresult]
          refine ⟨?_, ?_⟩
          · intro since' hsince
            cases hsince
          · intro p hp
            rcases List.mem_append.1 hp with hp | hp
            · exact hreturned p hp
            · obtain rfl := List.mem_singleton.1 hp
              exact hnow

theorem Prompt.next (hp : h.Prompt) (hnext : h.Next h') : h'.Prompt := by
  cases hnext with
  | @passes later hle hdue hover =>
      refine ⟨?_, hp.returned⟩
      intro since hs
      obtain ⟨hnow, hc⟩ := hp.waits since hs
      have hlater : later ≤ h.now := by
        cases halive : h.renewer.isAlive with
        | false => exact hover (by rw [show h.since = some since from hs]; rfl) halive
        | true =>
            have hmax := hdue 0 (by simp [Renewer.dueAt, halive, hc])
            omega
      exact ⟨by show since = later; omega, hc⟩
  | wakes =>
      refine ⟨?_, hp.returned⟩
      intro since hs
      obtain ⟨hnow, hc⟩ := hp.waits since hs
      exact ⟨hnow, Renewer.wake_flags.1.trans hc⟩
  | answered reply =>
      refine ⟨?_, hp.returned⟩
      intro since hs
      obtain ⟨hnow, hc⟩ := hp.waits since hs
      exact ⟨hnow, Renewer.answer_flags.1.trans hc⟩
  | begins _ =>
      refine prompt_poll ?_ hp.returned
      intro since hs
      exact (Option.some.inj hs).symm
  | polled =>
      refine prompt_poll ?_ hp.returned
      intro since hs
      exact (hp.waits since hs).1
  | abandoned =>
      refine ⟨?_, hp.returned⟩
      intro since hs
      cases hs

/-- While a stop is under way, the clock stands. -/
theorem prompt_of_reachable (hr : h.Reachable start r) : h.Prompt := by
  induction hr with
  | refl =>
      refine ⟨?_, ?_⟩
      · intro since hs
        cases hs
      · intro p hp
        cases hp
  | tail _ hnext ih => exact ih.next hnext

/-- The next turn of the renewer ends it, and the stop returns when it
goes on after that. -/
theorem Prompt.returns (hp : h.Prompt) {since : Nat} (hs : h.since = some since) :
    ∃ outcome, h.wake.poll.since = none ∧
      h.wake.poll.returned = h.returned ++ [(since, since, outcome)] := by
  obtain ⟨rfl, hc⟩ := hp.waits since hs
  have hover : h.wake.renewer.cancel.isAlive = false := Renewer.wake_cancelled hc
  obtain ⟨outcome, hresult⟩ := exists_join_of_over hover
  have hsince : h.wake.since = some h.now := hs
  rw [poll_returns hsince hresult]
  exact ⟨outcome, rfl, rfl⟩

end Halt

end DistLock
