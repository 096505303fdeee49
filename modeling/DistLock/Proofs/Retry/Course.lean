import Mathlib.Algebra.BigOperators.Group.Finset.Basic
import DistLock.Proofs.Retry

/-!
# The course of an invocation

How many attempts an invocation makes, when it makes them and when it ends,
for every policy and whatever comes of the attempts:

* a reply that is not a transient status ends it, and so does a transient
  status when no repetition is left (`retry_law`);
* until then every attempt is followed by the next, one pause after its
  reply, with the request unchanged (`play_ended`, `play_underway`); the
  pause is what the policy wants, as long as there is a sleep that long;
* without a limit to the repetitions, transient statuses alone never end it.

The counter of an invocation starts anew after the largest number. That
makes no difference: with a limit it never gets there, and without one
nobody looks at it (`isExhausted_ofNat`).
-/

namespace DistLock

/-- A reply that makes an invocation try again, as far as its policy allows. -/
def Reply.isTransient {ρ : Type} : Reply ρ → Bool
  | .failure status => status.isTransient
  | _ => false

/-- The service says no in its answers, and nowhere else. -/
theorem ClientError.ofDecision_isServerDecision (d : RpcError) :
    (ClientError.ofDecision d).isServerDecision = true := by
  unfold ClientError.ofDecision
  split <;> rfl

theorem Reply.isServerDecision_iff {ρ : Type} [HasDecision ρ] {reply : Reply ρ} {e : ClientError}
    (h : reply.outcome = .error e) :
    e.isServerDecision = true ↔ ∃ r d, reply = .response r ∧ decision r = some d := by
  cases reply with
  | response r =>
      cases hd : decision r with
      | none => simp [Reply.outcome, hd] at h
      | some d =>
          simp only [Reply.outcome, hd, Outcome.error.injEq] at h
          subst h
          exact ⟨fun _ => ⟨r, d, rfl, hd⟩, fun _ => ClientError.ofDecision_isServerDecision d⟩
  | failure status =>
      obtain rfl := Outcome.error.inj h
      simp [ClientError.isServerDecision]
  | crash text => simp [Reply.outcome] at h

/-! ## What lies ahead -/

/-- What lies ahead of an invocation: how long each of its attempts takes,
and what comes of it. -/
structure Prospect (ρ : Type) where
  delay : Nat → Nat
  reply : Nat → Reply ρ

namespace Prospect

variable {ρ : Type}

/-- What comes of the first `n` attempts. -/
def first (o : Prospect ρ) (n : Nat) : List (Nat × Reply ρ) :=
  (List.range n).map fun j => (o.delay j, o.reply j)

/-- What lies ahead after the first attempt. -/
def tail (o : Prospect ρ) : Prospect ρ := ⟨fun j => o.delay (j + 1), fun j => o.reply (j + 1)⟩

/-- The time that the first `n` attempts take. -/
def elapsed (o : Prospect ρ) (n : Nat) : Nat := ∑ j ∈ Finset.range n, o.delay j

/-- When attempt `k` is made, after as many others with a pause behind each. -/
def dueAt (o : Prospect ρ) (start pause k : Nat) : Nat := start + o.elapsed k + k * pause

/-- When the reply to attempt `k` arrives. -/
def answeredAt (o : Prospect ρ) (start pause k : Nat) : Nat :=
  start + o.elapsed (k + 1) + k * pause

@[simp] theorem first_zero (o : Prospect ρ) : o.first 0 = [] := rfl

theorem first_succ (o : Prospect ρ) (n : Nat) :
    o.first (n + 1) = (o.delay 0, o.reply 0) :: o.tail.first n := by
  simp [first, tail, List.range_succ_eq_map]

theorem elapsed_succ (o : Prospect ρ) (n : Nat) :
    o.elapsed (n + 1) = o.delay 0 + o.tail.elapsed n := by
  unfold elapsed
  rw [Finset.sum_range_succ', Nat.add_comm]
  rfl

@[simp] theorem dueAt_zero (o : Prospect ρ) (start pause : Nat) :
    o.dueAt start pause 0 = start := by
  simp [dueAt, elapsed]

@[simp] theorem answeredAt_zero (o : Prospect ρ) (start pause : Nat) :
    o.answeredAt start pause 0 = start + o.delay 0 := by
  simp [answeredAt, elapsed]

/-- Later attempts are those of what lies ahead one reply and
one pause later. -/
theorem dueAt_succ (o : Prospect ρ) (start pause k : Nat) :
    o.dueAt start pause (k + 1) =
      o.tail.dueAt (start + o.delay 0 + pause) pause k := by
  simp only [dueAt, elapsed_succ, Nat.add_mul]
  omega

theorem answeredAt_succ (o : Prospect ρ) (start pause k : Nat) :
    o.answeredAt start pause (k + 1) =
      o.tail.answeredAt (start + o.delay 0 + pause) pause k := by
  simp only [answeredAt, elapsed_succ o (k + 1), Nat.add_mul]
  omega

/-- The reply to an attempt arrives as long after it as that takes. -/
theorem answeredAt_eq (o : Prospect ρ) (start pause k : Nat) :
    o.answeredAt start pause k = o.dueAt start pause k + o.delay k := by
  simp only [answeredAt, dueAt, elapsed, Finset.sum_range_succ]
  omega

/-- The next attempt is made a pause after the reply. -/
theorem dueAt_after_answer (o : Prospect ρ) (start pause k : Nat) :
    o.dueAt start pause (k + 1) = o.answeredAt start pause k + pause := by
  unfold dueAt answeredAt
  rw [Nat.succ_mul]
  omega

theorem dueAt_le_answeredAt (o : Prospect ρ) (start pause k : Nat) :
    o.dueAt start pause k ≤ o.answeredAt start pause k := by
  rw [answeredAt_eq]
  exact Nat.le_add_right _ _

theorem answeredAt_le_dueAt (o : Prospect ρ) (start pause k : Nat) :
    o.answeredAt start pause k ≤ o.dueAt start pause (k + 1) := by
  rw [dueAt_after_answer]
  exact Nat.le_add_right _ _

/-- No attempt is answered before the first one is made. -/
theorem start_le_answeredAt (o : Prospect ρ) (start pause k : Nat) :
    start ≤ o.answeredAt start pause k := by
  unfold answeredAt
  omega

end Prospect

/-! ## The counter -/

/-- The counter tells that no repetition is left when there is a limit,
and it is reached. -/
theorem RetryPolicy.isExhausted_ofNat {p : RetryPolicy} {k : Nat}
    (hk : p.maxRetries = 0 ∨ k ≤ p.maxRetries.toNat) :
    p.isExhausted (UInt32.ofNat k) = true ↔ 0 < p.maxRetries ∧ k = p.maxRetries.toNat := by
  have hzero : p.maxRetries = 0 ↔ p.maxRetries.toNat = 0 := by
    rw [← UInt32.toNat_inj]
    rfl
  simp only [isExhausted, isUnbounded, Bool.and_eq_true, Bool.not_eq_true', beq_eq_false_iff_ne,
    decide_eq_true_eq, ne_eq, UInt32.le_iff_toNat_le, UInt32.lt_iff_toNat_lt, UInt32.toNat_zero,
    hzero]
  rcases hk with hk | hk
  · rw [hzero] at hk
    simp [hk]
  · have hsize : k < 2 ^ 32 := Nat.lt_of_le_of_lt hk p.maxRetries.toNat_lt
    rw [UInt32.toNat_ofNat_of_lt' hsize]
    omega

namespace Transcript

variable {α ρ : Type}

/-- The transcript with one more attempt in front of the others. -/
def precededBy (t : Transcript α ρ) (attempt : Nat × α) (log : List LogEvent) : Transcript α ρ :=
  { t with attempts := attempt :: t.attempts, log := log ++ t.log }

@[simp] theorem precededBy_outcome (t : Transcript α ρ) (attempt : Nat × α)
    (log : List LogEvent) : (t.precededBy attempt log).outcome = t.outcome := rfl

@[simp] theorem precededBy_attempts (t : Transcript α ρ) (attempt : Nat × α)
    (log : List LogEvent) : (t.precededBy attempt log).attempts = attempt :: t.attempts := rfl

end Transcript

namespace Invocation

variable {α ρ : Type} {i : Invocation α} {o : Prospect ρ} {limit now k n : Nat}

/-! ## One attempt -/

/-- The invocation after one more attempt. -/
def next (i : Invocation α) : Invocation α := { i with retries := i.retries + 1 }

/-- The invocation after `k` more attempts. -/
def repeated (i : Invocation α) (k : Nat) : Invocation α :=
  { i with retries := i.retries + UInt32.ofNat k }

/-- The invocation may be repeated `k` times more, and is given a
reason to each time. -/
def Repeats (i : Invocation α) (o : Prospect ρ) (k : Nat) : Prop :=
  ∀ j < k, (o.reply j).isTransient = true ∧ i.policy.isExhausted (i.repeated j).retries = false

@[simp] theorem repeated_zero : i.repeated 0 = i := by
  simp [repeated]

theorem next_repeated (j : Nat) : i.next.repeated j = i.repeated (j + 1) := by
  have hone : (1 : UInt32) = UInt32.ofNat 1 := rfl
  simp only [repeated, next, hone, UInt32.add_assoc, ← UInt32.ofNat_add, Nat.add_comm 1 j]

/-- No repetition needs no reason. -/
theorem repeats_zero (i : Invocation α) (o : Prospect ρ) : i.Repeats o 0 := by
  intro j hj
  exact absurd hj (Nat.not_lt_zero j)

theorem Repeats.next (h : i.Repeats o (k + 1)) : i.next.Repeats o.tail k := by
  intro j hj
  rw [next_repeated]
  exact h (j + 1) (by omega)

/-- The times of the first `n` attempts, with the request that is
sent each time. -/
def attempts (i : Invocation α) (o : Prospect ρ) (start n : Nat) : List (Nat × α) :=
  (List.range n).map fun j => (o.dueAt start i.policy.pause j, i.request)

theorem attempts_succ (start n : Nat) : i.attempts o start (n + 1) =
    (start, i.request) ::
      i.next.attempts o.tail (start + o.delay 0 + i.policy.pause) n := by
  simp only [attempts, List.range_succ_eq_map, List.map_cons, List.map_map, Prospect.dueAt_zero,
    List.cons.injEq, true_and]
  refine List.map_congr_left fun j _ => ?_
  simp [Function.comp, Prospect.dueAt_succ, next]

/-- Whether a fresh invocation is repeated is up to the replies and to the
limit of its policy. -/
theorem repeats_iff {policy : RetryPolicy} {operation : Operation} {request : α}
    (hk : policy.maxRetries = 0 ∨ k ≤ policy.maxRetries.toNat) :
    (Invocation.mk policy operation request 0).Repeats o k ↔
      ∀ j < k, (o.reply j).isTransient = true := by
  refine ⟨fun h j hj => (h j hj).1, fun h j hj => ⟨h j hj, ?_⟩⟩
  have hroom : policy.maxRetries = 0 ∨ j ≤ policy.maxRetries.toNat := hk.imp_right (by omega)
  rw [← Bool.not_eq_true]
  simp only [repeated, UInt32.zero_add, RetryPolicy.isExhausted_ofNat hroom]
  rintro ⟨hpos, rfl⟩
  rcases hk with hk | hk
  · simp [hk] at hpos
  · omega

variable [HasDecision ρ]

theorem settle_again {reply : Reply ρ} (ht : reply.isTransient = true)
    (hx : i.policy.isExhausted i.retries = false) :
    ∃ log, i.settle reply = (.again i.next, log) := by
  cases reply with
  | failure status =>
      simp only [Reply.isTransient] at ht
      exact ⟨_, by simp [settle, ht, hx, Invocation.next]; rfl⟩
  | _ => simp [Reply.isTransient] at ht

theorem settle_finished {reply : Reply ρ}
    (h : reply.isTransient = true → i.policy.isExhausted i.retries = true) :
    ∃ log, i.settle reply = (.finished reply.outcome, log) := by
  cases reply with
  | response r => cases hd : decision r <;> exact ⟨_, by simp [settle, Reply.outcome, hd]; rfl⟩
  | failure status =>
      cases ht : status.isTransient with
      | false => exact ⟨_, by simp [settle, Reply.outcome, ht]; rfl⟩
      | true => exact ⟨_, by simp [settle, Reply.outcome, ht, h ht]; rfl⟩
  | crash text => exact ⟨_, rfl⟩

/-- An attempt that is to be repeated, when there is time for it: the rest
is another invocation, that starts after the pause. -/
theorem play_again (hrep : i.Repeats o (k + 1))
    (hdue : now + o.delay 0 + i.policy.pause ≤ limit) :
    ∃ log, i.play limit now (o.first (n + 1)) =
      (i.next.play limit (now + o.delay 0 + i.policy.pause) (o.tail.first n)).precededBy
        (now, i.request) log := by
  obtain ⟨ht, hx⟩ := hrep 0 (by omega)
  rw [repeated_zero] at hx
  obtain ⟨log, hs⟩ := settle_again ht hx
  refine ⟨log, ?_⟩
  rw [Prospect.first_succ]
  simp only [play, hs]
  rw [if_neg (by omega), if_neg (by simp only [next]; omega)]
  rfl

/-- An attempt that is to be repeated, when there is no time for it. -/
theorem play_cut (hrep : i.Repeats o (k + 1))
    (hdue : limit < now + o.delay 0 + i.policy.pause) :
    (i.play limit now (o.first (n + 1))).outcome = none := by
  obtain ⟨ht, hx⟩ := hrep 0 (by omega)
  rw [repeated_zero] at hx
  obtain ⟨log, hs⟩ := settle_again ht hx
  rw [Prospect.first_succ]
  simp only [play, hs]
  by_cases harrival : limit < now + o.delay 0
  · rw [if_pos harrival]
  · rw [if_neg harrival, if_pos (by simp only [next]; omega)]

/-! ## One attempt after the other -/

/-- As long as there is a reason to repeat, and time for it, every attempt
is followed by another one with the same request. -/
theorem play_underway (hrep : i.Repeats o k) (hdue : o.dueAt now i.policy.pause k ≤ limit) :
    (i.play limit now (o.first k)).attempts = i.attempts o now (k + 1) := by
  induction k generalizing i o now with
  | zero => simp [play, attempts]
  | succ k ih =>
      rw [Prospect.dueAt_succ] at hdue
      have hroom : now + o.delay 0 + i.policy.pause ≤ limit := by
        unfold Prospect.dueAt at hdue
        omega
      obtain ⟨log, hplay⟩ := play_again (n := k) hrep hroom
      rw [hplay, attempts_succ, Transcript.precededBy_attempts, ih hrep.next hdue]

/-- The first attempt that is not repeated ends the invocation when
its reply arrives. -/
theorem play_ended (hrep : i.Repeats o k)
    (hlast : (o.reply k).isTransient = true → i.policy.isExhausted (i.repeated k).retries = true)
    (hn : k < n) (hlimit : o.answeredAt now i.policy.pause k ≤ limit) :
    ∃ log, i.play limit now (o.first n) =
      ⟨some (o.reply k).outcome, o.answeredAt now i.policy.pause k,
        i.attempts o now (k + 1), log⟩ := by
  induction k generalizing i o now n with
  | zero =>
      cases n with
      | zero => omega
      | succ n =>
          rw [repeated_zero] at hlast
          obtain ⟨log, hs⟩ := settle_finished hlast
          rw [Prospect.answeredAt_zero] at hlimit ⊢
          refine ⟨log, ?_⟩
          rw [Prospect.first_succ]
          simp only [play, hs]
          rw [if_neg (by omega)]
          simp [attempts]
  | succ k ih =>
      cases n with
      | zero => omega
      | succ n =>
          rw [Prospect.answeredAt_succ] at hlimit ⊢
          have hroom : now + o.delay 0 + i.policy.pause ≤ limit := by
            unfold Prospect.answeredAt at hlimit
            omega
          obtain ⟨log, hplay⟩ := play_again (n := n) hrep hroom
          rw [← next_repeated] at hlast
          obtain ⟨log', hrest⟩ := ih hrep.next hlast (Nat.lt_of_succ_lt_succ hn) hlimit
          exact ⟨log ++ log', by rw [hplay, hrest, attempts_succ _ (k + 1)]; rfl⟩

/-- Before that reply, nothing has come of the invocation. -/
theorem play_pending (hrep : i.Repeats o k)
    (hearly : n ≤ k ∨ limit < o.answeredAt now i.policy.pause k) :
    (i.play limit now (o.first n)).outcome = none := by
  induction k generalizing i o now n with
  | zero =>
      cases n with
      | zero => rfl
      | succ n =>
          rw [Prospect.answeredAt_zero] at hearly
          rw [Prospect.first_succ]
          simp only [play]
          rw [if_pos (by omega)]
  | succ k ih =>
      cases n with
      | zero => rfl
      | succ n =>
          rcases Nat.lt_or_ge limit (now + o.delay 0 + i.policy.pause) with hdue | hdue
          · exact play_cut hrep hdue
          · obtain ⟨log, hplay⟩ := play_again (n := n) hrep hdue
            rw [Prospect.answeredAt_succ] at hearly
            rw [hplay, Transcript.precededBy_outcome]
            exact ih hrep.next (hearly.imp_left Nat.le_of_succ_le_succ)

/-! ## The whole -/

/-- The invocation ends with attempt `k`, counted from zero: with what the
reply to it comes to, when that arrives and not before, and with no
attempt after it. -/
structure EndsWith (i : Invocation α) (o : Prospect ρ) (start k : Nat) : Prop where
  ended : ∀ n limit, k < n → o.answeredAt start i.policy.pause k ≤ limit →
    ∃ log, i.play limit start (o.first n) =
      ⟨some (o.reply k).outcome, o.answeredAt start i.policy.pause k,
        i.attempts o start (k + 1), log⟩
  pending : ∀ n limit, n ≤ k ∨ limit < o.answeredAt start i.policy.pause k →
    (i.play limit start (o.first n)).outcome = none
  decided : ∀ e, (o.reply k).outcome = .error e →
    (e.isServerDecision = true ↔ ∃ r d, o.reply k = .response r ∧ decision r = some d)

/-- An invocation that may be repeated so often ends with the attempt after
that, unless it is to be repeated once more. -/
theorem Repeats.endsWith {start : Nat} (hrep : i.Repeats o k)
    (hlast : (o.reply k).isTransient = true →
      i.policy.isExhausted (i.repeated k).retries = true) : i.EndsWith o start k :=
  ⟨fun _ _ => play_ended hrep hlast, fun _ _ => play_pending hrep,
    fun _ => Reply.isServerDecision_iff⟩

end Invocation

/-! ## The last attempt -/

namespace Invocation

variable {α ρ : Type} {i : Invocation α} {o : Prospect ρ} {start k : Nat}

theorem repeated_next (j : Nat) : (i.repeated j).next = i.repeated (j + 1) := by
  have hone : (1 : UInt32) = UInt32.ofNat 1 := rfl
  simp only [repeated, next, hone, UInt32.add_assoc, ← UInt32.ofNat_add]

theorem attempts_concat (n : Nat) : i.attempts o start (n + 1) =
    i.attempts o start n ++ [(o.dueAt start i.policy.pause n, i.request)] := by
  simp [attempts, List.range_succ]

@[simp] theorem length_attempts (n : Nat) : (i.attempts o start n).length = n := by
  simp [attempts]

/-- The reply to attempt `k` is no reason to try again, or no
repetition is left. -/
def IsLast (i : Invocation α) (o : Prospect ρ) (k : Nat) : Prop :=
  (o.reply k).isTransient = true → i.policy.isExhausted (i.repeated k).retries = true

/-- An invocation that is repeated so often is repeated once more, or not. -/
theorem Repeats.more_or_last (h : i.Repeats o k) : i.Repeats o (k + 1) ∨ i.IsLast o k := by
  by_cases hlast : i.IsLast o k
  · exact .inr hlast
  · left
    simp only [IsLast, Classical.not_imp, Bool.not_eq_true] at hlast
    intro j hj
    rcases Nat.lt_succ_iff_lt_or_eq.1 hj with hj | rfl
    · exact h j hj
    · exact hlast

/-- Up to any attempt, an invocation is repeated, or there was
a last attempt. -/
theorem repeats_or_last (i : Invocation α) (o : Prospect ρ) (k : Nat) :
    i.Repeats o k ∨ ∃ j < k, i.Repeats o j ∧ i.IsLast o j := by
  induction k with
  | zero => exact .inl (i.repeats_zero o)
  | succ k ih =>
      rcases ih with hrep | ⟨j, hj, hlast⟩
      · exact hrep.more_or_last.imp_right fun hlast => ⟨k, Nat.lt_succ_self k, hrep, hlast⟩
      · exact .inr ⟨j, Nat.lt_succ_of_lt hj, hlast⟩

/-- An invocation that ends with an attempt was repeated up to it,
and not after it. -/
theorem EndsWith.repeats [HasDecision ρ] (h : i.EndsWith o start k) :
    i.Repeats o k ∧ i.IsLast o k := by
  rcases repeats_or_last i o k with hrep | ⟨j, hj, hrep, hlast⟩
  · refine ⟨hrep, hrep.more_or_last.resolve_left fun hmore => ?_⟩
    -- repeated once more, nothing would have come of it yet
    obtain ⟨log, hplay⟩ := h.ended (k + 1) _ (Nat.lt_succ_self k) (Nat.le_refl _)
    have hnone : (i.play (o.answeredAt start i.policy.pause k) start
        (o.first (k + 1))).outcome = none := play_pending hmore (.inl (Nat.le_refl _))
    rw [hplay] at hnone
    cases hnone
  · -- an earlier end would be the end
    obtain ⟨log, hplay⟩ := play_ended hrep hlast (Nat.lt_succ_self j) (Nat.le_refl _)
    have hnone := h.pending (j + 1) (o.answeredAt start i.policy.pause j) (.inl hj)
    rw [hplay] at hnone
    cases hnone

end Invocation

open Invocation in
/-- An invocation ends with the first reply that is no transient status, as
long as its policy allows so many repetitions; with a limit, and transient
statuses up to it, it ends with the last of them; without a limit, transient
statuses alone never end it. Between two attempts it pauses for the interval
of its policy, and for no longer than the longest sleep. -/
theorem retry_law {α ρ : Type} [HasDecision ρ] (policy : RetryPolicy) (operation : Operation)
    (request : α) (start : Nat) (o : Prospect ρ) :
    let i : Invocation α := { policy, operation, request }
    policy.pause = min policy.interval longestSleep ∧
    (∀ k, (∀ j < k, (o.reply j).isTransient = true) → (o.reply k).isTransient = false →
      (policy.maxRetries = 0 ∨ k ≤ policy.maxRetries.toNat) → i.EndsWith o start k) ∧
    (0 < policy.maxRetries →
      (∀ j ≤ policy.maxRetries.toNat, (o.reply j).isTransient = true) →
      i.EndsWith o start policy.maxRetries.toNat ∧
        ∃ status, (o.reply policy.maxRetries.toNat).outcome = .error (.unanswered status)) ∧
    (policy.maxRetries = 0 → (∀ j, (o.reply j).isTransient = true) → ∀ n limit,
      (i.play limit start (o.first n)).outcome = none ∧
      (o.dueAt start policy.pause n ≤ limit →
        (i.play limit start (o.first n)).attempts = i.attempts o start (n + 1))) := by
  intro i
  refine ⟨rfl, ?_, ?_, ?_⟩
  · intro k hbefore hfinal hk
    have hrep : i.Repeats o k := (repeats_iff hk).2 hbefore
    exact hrep.endsWith (by simp [hfinal])
  · intro hpos hbefore
    have hrep : i.Repeats o policy.maxRetries.toNat :=
      (repeats_iff (.inr (Nat.le_refl _))).2 fun j hj => hbefore j (Nat.le_of_lt hj)
    -- the counter has reached the limit, so the last status is no reason
    -- to try again
    have hexhausted : policy.isExhausted (UInt32.ofNat policy.maxRetries.toNat) = true :=
      (RetryPolicy.isExhausted_ofNat (.inr (Nat.le_refl _))).2 ⟨hpos, rfl⟩
    refine ⟨hrep.endsWith fun _ => by simpa [repeated, i] using hexhausted, ?_⟩
    have hlast := hbefore _ (Nat.le_refl _)
    cases hreply : o.reply policy.maxRetries.toNat with
    | failure status => exact ⟨status, rfl⟩
    | response r | crash text => simp [hreply, Reply.isTransient] at hlast
  · intro hzero hbefore n limit
    have hrep : i.Repeats o n := (repeats_iff (.inl hzero)).2 fun j _ => hbefore j
    exact ⟨play_pending hrep (.inl (Nat.le_refl n)), play_underway hrep⟩

/-- A service that cannot be reached twice, and then refuses the lock. -/
def laterRefusal : Prospect LockResponse where
  delay _ := 5
  reply j := if j < 2 then .failure { code := .unavailable } else .response (.refused "job-42")

/-- The same invocation with room for both repetitions, and
with room for one. -/
theorem retry_law_later_refusal :
    (∃ log, (⟨⟨1000, 2⟩, .tryLock, "job-42", 0⟩ : Invocation String).play 60000 0
        (laterRefusal.first 7) =
      ⟨some (.ok (.refused "job-42")), 2015,
        [(0, "job-42"), (1005, "job-42"), (2010, "job-42")], log⟩) ∧
    ∃ log, (⟨⟨1000, 1⟩, .tryLock, "job-42", 0⟩ : Invocation String).play 60000 0
        (laterRefusal.first 7) =
      ⟨some (.error (.unanswered { code := .unavailable })), 1010,
        [(0, "job-42"), (1005, "job-42")], log⟩ := by
  refine ⟨?_, ?_⟩
  · have h := (retry_law ⟨1000, 2⟩ .tryLock "job-42" 0 laterRefusal).2.1 2 (by decide) (by decide)
      (by decide)
    exact h.ended 7 60000 (by decide) (by decide)
  · have h := (retry_law ⟨1000, 1⟩ .tryLock "job-42" 0 laterRefusal).2.2.1 (by decide) (by decide)
    exact h.1.ended 7 60000 (by decide) (by decide)

/-- A pause that is to last longer than the longest sleep is over
before its time. -/
theorem retry_law_longest_pause :
    let response : LockResponse := .granted "job-42" "key-1"
    let i : Invocation String := ⟨⟨4294967265000, 2⟩, .lock, "job-42", 0⟩
    (∃ log, i.play 946080000000 0
        [(0, .failure { code := .unavailable }), (0, .response response)] =
      ⟨some (.ok response), 946080000000, [(0, "job-42"), (946080000000, "job-42")], log⟩) ∧
    946080000000 < 0 + 0 + 1 * i.policy.interval :=
  ⟨⟨_, rfl⟩, by decide⟩

end DistLock
