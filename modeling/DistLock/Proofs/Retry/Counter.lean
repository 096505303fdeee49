import DistLock.Proofs.Retry.Course

/-!
# The counter of an invocation

An invocation counts its repetitions in 32 bits, and starts anew after the
largest number. Nobody can tell:

* with a limit the counter stays within it, and it never counts
  beyond the largest number, not even when that is the limit
  (`iterates_iff`, `Iterates.room`);
* a `Tally` is the same loop with a count that has no largest number. It
  comes to the same at every reply (`Counts.settle`), so it makes the
  same attempts at the same times with the same result, however many
  there are (`Counts.play`).

What is written to the log tells the two apart, since it holds the counter.
-/

namespace DistLock

namespace Invocation

variable {α ρ : Type} [HasDecision ρ] {i j next : Invocation α} {n : Nat} {reply : Reply ρ}
  {log : List LogEvent}

/-- The invocation gets to its iteration `n`, counted from zero, and stands
like `j` there. -/
inductive Iterates (ρ : Type) [HasDecision ρ] (i : Invocation α) : Nat → Invocation α → Prop
  | first : Iterates ρ i 0 i
  | again {n : Nat} {j next : Invocation α} {reply : Reply ρ} {log : List LogEvent}
      (h : Iterates ρ i n j) (hs : j.settle reply = (.again next, log)) :
      Iterates ρ i (n + 1) next

/-- There is another iteration after a transient status, and if a
repetition is left. -/
theorem settle_eq_again (h : i.settle reply = (.again next, log)) :
    reply.isTransient = true ∧ i.policy.isExhausted i.retries = false ∧ next = i.next := by
  by_cases hlast : reply.isTransient = true → i.policy.isExhausted i.retries = true
  · obtain ⟨log', hs⟩ := settle_finished hlast
    simp [hs] at h
  · simp only [Classical.not_imp, Bool.not_eq_true] at hlast
    obtain ⟨ht, hx⟩ := hlast
    obtain ⟨log', hs⟩ := settle_again ht hx
    simp only [hs, Prod.mk.injEq, Verdict.again.injEq] at h
    exact ⟨ht, hx, h.1.symm⟩

end Invocation

/-- The limit is not reached as long as there is room for one
repetition more. -/
theorem RetryPolicy.isExhausted_eq_false {p : RetryPolicy} {k : Nat}
    (hk : p.maxRetries = 0 ∨ k ≤ p.maxRetries.toNat) :
    p.isExhausted (UInt32.ofNat k) = false ↔
      p.maxRetries = 0 ∨ k + 1 ≤ p.maxRetries.toNat := by
  have hpos : 0 < p.maxRetries ↔ p.maxRetries ≠ 0 := by
    rw [UInt32.lt_iff_toNat_lt, ne_eq, ← UInt32.toNat_inj]
    exact Nat.pos_iff_ne_zero
  rw [← Bool.not_eq_true, isExhausted_ofNat hk, hpos]
  by_cases hzero : p.maxRetries = 0
  · simp [hzero]
  · have hle := hk.resolve_left hzero
    simp only [hzero, ne_eq, not_false_eq_true, true_and, false_or]
    omega

namespace Invocation

variable {α ρ : Type} [HasDecision ρ] {policy : RetryPolicy} {operation : Operation} {request : α}
  {j next : Invocation α} {n : Nat}

/-- The iterations of a fresh invocation are as many as its policy allows,
and the counter of each is its number. -/
theorem iterates_iff :
    Iterates ρ (Invocation.mk policy operation request 0) n j ↔
      j = (Invocation.mk policy operation request 0).repeated n ∧
        (policy.maxRetries = 0 ∨ n ≤ policy.maxRetries.toNat) := by
  constructor
  · intro h
    induction h with
    | first => exact ⟨repeated_zero.symm, .inr (Nat.zero_le _)⟩
    | again _ hs ih =>
        obtain ⟨rfl, hroom⟩ := ih
        obtain ⟨-, hx, rfl⟩ := settle_eq_again hs
        simp only [repeated, UInt32.zero_add] at hx
        exact ⟨repeated_next _, (RetryPolicy.isExhausted_eq_false hroom).1 hx⟩
  · rintro ⟨rfl, hroom⟩
    induction n with
    | zero => exact repeated_zero ▸ .first
    | succ n ih =>
        have hroom' := hroom.imp_right Nat.le_of_succ_le
        have hx : policy.isExhausted (0 + UInt32.ofNat n) = false := by
          rw [UInt32.zero_add]
          exact (RetryPolicy.isExhausted_eq_false hroom').2 hroom
        have ht : (Reply.failure { code := .unavailable } : Reply ρ).isTransient = true := rfl
        obtain ⟨log, hs⟩ := settle_again
          (i := (Invocation.mk policy operation request 0).repeated n) ht hx
        rw [repeated_next] at hs
        exact (ih hroom').again hs

end Invocation

/-! ## The same without a largest number -/

/-- What an invocation did, apart from what it wrote to the log. -/
structure Performance (α ρ : Type) where
  outcome : Option (Outcome ρ)
  endedAt : Nat
  attempts : List (Nat × α)

/-- What a transcript tells apart from the log. -/
def Transcript.performance {α ρ : Type} (t : Transcript α ρ) : Performance α ρ :=
  ⟨t.outcome, t.endedAt, t.attempts⟩

/-- An invocation whose count of repetitions has no largest number. -/
structure Tally (α : Type) where
  policy : RetryPolicy
  request : α
  retries : Nat := 0

namespace Tally

variable {α ρ : Type} [HasDecision ρ]

/-- No repetition is left. -/
def isExhausted (t : Tally α) : Bool :=
  !t.policy.isUnbounded && decide (t.policy.maxRetries.toNat ≤ t.retries)

/-- The tally after one more attempt. -/
def next (t : Tally α) : Tally α := { t with retries := t.retries + 1 }

/-- What follows from the reply to the current attempt: an outcome, or
another attempt. -/
def settle (t : Tally α) : Reply ρ → Outcome ρ ⊕ Tally α
  | .response r =>
    match decision r with
    | none => .inl (.ok r)
    | some e => .inl (.error (.ofDecision e))
  | .failure status =>
    if !status.isTransient then .inl (.error (.unanswered status))
    else if t.isExhausted then .inl (.error (.unanswered status))
    else .inr t.next
  | .crash text => .inl (.crash text)

/-- Plays a tally as an invocation is played. -/
def play (limit : Nat) : (now : Nat) → Tally α → List (Nat × Reply ρ) → Performance α ρ
  | now, t, [] => ⟨none, max now limit, [(now, t.request)]⟩
  | now, t, (delay, reply) :: replies =>
    if limit < now + delay then ⟨none, limit, [(now, t.request)]⟩
    else
      match t.settle reply with
      | .inl outcome => ⟨some outcome, now + delay, [(now, t.request)]⟩
      | .inr t' =>
        let due := now + delay + t'.policy.pause
        if limit < due then ⟨none, limit, [(now, t.request)]⟩
        else
          let rest := play limit due t' replies
          { rest with attempts := (now, t.request) :: rest.attempts }

variable {t : Tally α} {reply : Reply ρ}

theorem settle_again (ht : reply.isTransient = true) (hx : t.isExhausted = false) :
    t.settle reply = .inr t.next := by
  cases reply with
  | failure status =>
      simp only [Reply.isTransient] at ht
      simp [settle, ht, hx]
  | _ => simp [Reply.isTransient] at ht

theorem settle_finished (h : reply.isTransient = true → t.isExhausted = true) :
    t.settle reply = .inl reply.outcome := by
  cases reply with
  | response r => cases hd : decision r <;> simp [settle, Reply.outcome, hd]
  | failure status =>
      cases ht : status.isTransient with
      | false => simp [settle, Reply.outcome, ht]
      | true => simp [settle, Reply.outcome, ht, h ht]
  | crash text => rfl

end Tally

/-- The invocation stands at the repetition of the tally. With a limit, the
tally is within it. -/
structure Counts {α : Type} (i : Invocation α) (t : Tally α) : Prop where
  policy : t.policy = i.policy
  request : t.request = i.request
  retries : i.retries = UInt32.ofNat t.retries
  room : i.policy.maxRetries = 0 ∨ t.retries ≤ i.policy.maxRetries.toNat

namespace Counts

variable {α ρ : Type} {i : Invocation α} {t : Tally α}

theorem isExhausted (h : Counts i t) : i.policy.isExhausted i.retries = t.isExhausted := by
  unfold RetryPolicy.isExhausted Tally.isExhausted
  rw [h.policy, h.retries]
  cases hu : i.policy.isUnbounded with
  | true => rfl
  | false =>
      -- with a limit, the tally fits into the counter
      have hzero : i.policy.maxRetries ≠ 0 := by
        simpa [RetryPolicy.isUnbounded] using hu
      have hsize : t.retries < 2 ^ 32 :=
        Nat.lt_of_le_of_lt (h.room.resolve_left hzero) (UInt32.toNat_lt _)
      simp only [UInt32.le_iff_toNat_le, UInt32.toNat_ofNat_of_lt' hsize]

theorem next (h : Counts i t) (hx : t.isExhausted = false) : Counts i.next t.next where
  policy := h.policy
  request := h.request
  retries := by
    have hone : (1 : UInt32) = UInt32.ofNat 1 := rfl
    simp only [Invocation.next, Tally.next, h.retries, hone, UInt32.ofNat_add]
  room := by
    rw [← h.isExhausted, h.retries] at hx
    exact (RetryPolicy.isExhausted_eq_false h.room).1 hx

variable [HasDecision ρ]

/-- Both come to an end with the same reply and outcome, or both go on. -/
theorem settle (h : Counts i t) (reply : Reply ρ) :
    ∃ log, (i.settle reply = (.finished reply.outcome, log) ∧
        t.settle reply = .inl reply.outcome) ∨
      (i.settle reply = (.again i.next, log) ∧ t.settle reply = .inr t.next ∧
        Counts i.next t.next) := by
  by_cases hlast : reply.isTransient = true → i.policy.isExhausted i.retries = true
  · obtain ⟨log, hs⟩ := Invocation.settle_finished hlast
    rw [h.isExhausted] at hlast
    exact ⟨log, .inl ⟨hs, Tally.settle_finished hlast⟩⟩
  · simp only [Classical.not_imp, Bool.not_eq_true] at hlast
    obtain ⟨ht, hx⟩ := hlast
    obtain ⟨log, hs⟩ := Invocation.settle_again ht hx
    rw [h.isExhausted] at hx
    exact ⟨log, .inr ⟨hs, Tally.settle_again ht hx, h.next hx⟩⟩

/-- However many replies there are, both make the same attempts and
come to the same. -/
theorem play (h : Counts i t) (limit now : Nat) (replies : List (Nat × Reply ρ)) :
    (i.play limit now replies).performance = t.play limit now replies := by
  induction replies generalizing i t now with
  | nil => simp [Invocation.play, Tally.play, Transcript.performance, h.request]
  | cons head replies ih =>
      obtain ⟨delay, reply⟩ := head
      unfold Invocation.play Tally.play
      rw [h.request]
      by_cases harrival : limit < now + delay
      · simp only [if_pos harrival, Transcript.performance]
      simp only [if_neg harrival]
      obtain ⟨log, ⟨hi, ht⟩ | ⟨hi, ht, hnext⟩⟩ := h.settle reply
      · simp only [hi, ht, Transcript.performance]
      · simp only [hi, ht, hnext.policy]
        by_cases hdue : limit < now + delay + i.next.policy.pause
        · simp only [if_pos hdue, Transcript.performance]
        · simp only [if_neg hdue, ← ih hnext, Transcript.performance]

end Counts

/-- A fresh invocation and a fresh tally have made no repetition. -/
theorem Counts.fresh {α : Type} (policy : RetryPolicy) (operation : Operation) (request : α) :
    Counts { policy, operation, request } { policy, request } :=
  ⟨rfl, rfl, rfl, .inr (Nat.zero_le _)⟩

namespace Invocation

variable {α ρ : Type} [HasDecision ρ] {policy : RetryPolicy} {operation : Operation} {request : α}
  {j next : Invocation α} {n : Nat} {reply : Reply ρ} {log : List LogEvent}

/-- The counter of an iteration is its number, after as many
rounds as it takes. -/
theorem Iterates.retries (h : Iterates ρ { policy, operation, request } n j) :
    j.retries.toNat = n % 2 ^ 32 := by
  rw [(iterates_iff.1 h).1]
  simp only [repeated, UInt32.zero_add, UInt32.toNat_ofNat']

/-- With a limit, there are no rounds to it. -/
theorem Iterates.retries_of_limit (h : Iterates ρ { policy, operation, request } n j)
    (hlimit : 0 < policy.maxRetries) :
    j.retries.toNat = n ∧ j.retries ≤ policy.maxRetries := by
  have hle : n ≤ policy.maxRetries.toNat :=
    (iterates_iff.1 h).2.resolve_left (by rintro hzero; simp [hzero] at hlimit)
  have hn : j.retries.toNat = n := by
    rw [h.retries]
    exact Nat.mod_eq_of_lt (Nat.lt_of_le_of_lt hle (UInt32.toNat_lt _))
  exact ⟨hn, UInt32.le_iff_toNat_le.2 (by rwa [hn])⟩

/-- With a limit, the counter has room for every repetition that is made. -/
theorem Iterates.room (h : Iterates ρ { policy, operation, request } n j)
    (hlimit : 0 < policy.maxRetries) (hs : j.settle reply = (.again next, log)) :
    j.retries.toNat + 1 ≤ 2 ^ 32 - 1 ∧ next.retries.toNat = j.retries.toNat + 1 := by
  obtain ⟨hn, -⟩ := h.retries_of_limit hlimit
  obtain ⟨hnext, -⟩ := (h.again hs).retries_of_limit hlimit
  have hsize := next.retries.toNat_lt
  omega

end Invocation

open Invocation in
/-- The counter of an invocation makes no difference. With a limit, it is
the number of the iteration, within the limit, and counts on without
starting anew. There are as many iterations as the policy allows, whatever
the counter, and the invocation does what it would do with a counter that
has no largest number. -/
theorem retries_immaterial {α ρ : Type} [HasDecision ρ] (policy : RetryPolicy)
    (operation : Operation) (request : α) :
    let i : Invocation α := { policy, operation, request }
    (0 < policy.maxRetries → ∀ n j, i.Iterates ρ n j →
      j.retries.toNat = n ∧ j.retries ≤ policy.maxRetries ∧
      ∀ (reply : Reply ρ) next log, j.settle reply = (.again next, log) →
        j.retries.toNat + 1 ≤ 2 ^ 32 - 1 ∧ next.retries.toNat = j.retries.toNat + 1) ∧
    (∀ n j, i.Iterates ρ n j → j.retries.toNat = n % 2 ^ 32) ∧
    (∀ n, (∃ j, i.Iterates ρ n j) ↔ policy.maxRetries = 0 ∨ n ≤ policy.maxRetries.toNat) ∧
    ∀ limit now (replies : List (Nat × Reply ρ)),
      (i.play limit now replies).performance =
        ({ policy, request } : Tally α).play limit now replies := by
  refine ⟨fun hlimit n j h => ?_, fun n j h => h.retries, fun n => ?_, ?_⟩
  · obtain ⟨hn, hle⟩ := h.retries_of_limit hlimit
    exact ⟨hn, hle, fun reply next log => h.room hlimit⟩
  · exact ⟨fun ⟨j, h⟩ => (iterates_iff.1 h).2, fun hroom => ⟨_, iterates_iff.2 ⟨rfl, hroom⟩⟩⟩
  · exact (Counts.fresh policy operation request).play

/-- A service that cannot be reached so often, and then grants the lock. -/
def grantAfter (failures : Nat) : Prospect LockResponse where
  delay _ := 5
  reply j :=
    if j < failures then .failure { code := .unavailable }
    else .response (.granted "job-42" "key-1")

theorem grantAfter_answeredAt (k n : Nat) :
    (grantAfter k).answeredAt 0 1000 n = 5 + n * 1005 := by
  have helapsed : (grantAfter k).elapsed (n + 1) = (n + 1) * 5 := by
    rw [Prospect.elapsed, Finset.sum_const_nat (m := 5) (fun _ _ => by rfl), Finset.card_range]
  unfold Prospect.answeredAt
  omega

/-- Without a limit, the lock is granted after any number of failures. -/
theorem grantAfter_play (k : Nat) :
    ((⟨⟨1000, 0⟩, .lock, "job-42", 0⟩ : Invocation String).play (5 + k * 1005) 0
      ((grantAfter k).first (k + 1))).outcome = some (.ok (.granted "job-42" "key-1")) := by
  have hlast : (grantAfter k).reply k = .response (.granted "job-42" "key-1") := by
    simp only [grantAfter, Nat.lt_irrefl, if_false]
  have hrep : (⟨⟨1000, 0⟩, .lock, "job-42", 0⟩ : Invocation String).Repeats (grantAfter k) k :=
    (Invocation.repeats_iff (.inl rfl)).2 fun j hj => by
      simp only [grantAfter, if_pos hj, Reply.isTransient, Status.isTransient, beq_self_eq_true]
  obtain ⟨log, hplay⟩ := (hrep.endsWith (by simp [hlast, Reply.isTransient])).ended (k + 1)
    (5 + k * 1005) (Nat.lt_succ_self k) (Nat.le_of_eq (grantAfter_answeredAt k k))
  rw [hplay, hlast]
  rfl

/-- The largest limit is reached and not passed; without a limit, the lock
is granted at the repetition after the counter has started anew. -/
theorem retries_immaterial_largest :
    (∃ j, (⟨⟨1000, 4294967295⟩, .lock, "job-42", 0⟩ : Invocation String).Iterates LockResponse
        4294967295 j ∧ j.retries = 4294967295) ∧
    (¬ ∃ j, (⟨⟨1000, 4294967295⟩, .lock, "job-42", 0⟩ : Invocation String).Iterates LockResponse
        4294967296 j) ∧
    (∃ j, (⟨⟨1000, 0⟩, .lock, "job-42", 0⟩ : Invocation String).Iterates LockResponse
        4294967297 j ∧ j.retries = 1) ∧
    ((⟨⟨1000, 0⟩, "job-42", 0⟩ : Tally String).play (5 + 4294967297 * 1005) 0
        ((grantAfter 4294967297).first (4294967297 + 1))).outcome =
      some (.ok (.granted "job-42" "key-1")) := by
  have hlimited := retries_immaterial (ρ := LockResponse) ⟨1000, 4294967295⟩ .lock "job-42"
  have hfree := retries_immaterial (ρ := LockResponse) ⟨1000, 0⟩ .lock "job-42"
  refine ⟨?_, ?_, ?_, ?_⟩
  · obtain ⟨j, hj⟩ := (hlimited.2.2.1 4294967295).2 (.inr (by decide))
    have hcount := (hlimited.1 (by decide) _ j hj).1
    exact ⟨j, hj, UInt32.toNat_inj.1 (by simpa using hcount)⟩
  · rw [hlimited.2.2.1]
    decide
  · obtain ⟨j, hj⟩ := (hfree.2.2.1 4294967297).2 (.inl rfl)
    have hcount := hfree.2.1 _ j hj
    exact ⟨j, hj, UInt32.toNat_inj.1 (by simpa using hcount)⟩
  · have hgrant (k : Nat) : ((⟨⟨1000, 0⟩, "job-42", 0⟩ : Tally String).play (5 + k * 1005) 0
        ((grantAfter k).first (k + 1))).outcome = some (.ok (.granted "job-42" "key-1")) := by
      rw [← hfree.2.2.2]
      exact grantAfter_play k
    exact hgrant 4294967297

end DistLock
