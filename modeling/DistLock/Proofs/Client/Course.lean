import DistLock.Client
import DistLock.Proofs.Renewal

/-!
# Calls beside each other

What comes of a call is up to the replies to it and to when they come,
counted from its beginning. So two calls that begin at different times, and
to which the same happens equally long after that, stay beside each other
(`Run.Beside`): both pause until equally long after their beginning, and
both come to the same in the end.

A direct call, the life of a session and a renewer meet such events in
the same form here (`CallEvent`), and `CallEvent.lead` says where a
sequence of them leads.
-/

namespace DistLock

/-- What happens to whoever makes a call. -/
inductive CallEvent where
  /-- An answer arrives. -/
  | answer (a : Answer)
  /-- It may go on. -/
  | wake
  deriving DecidableEq, Repr

/-- Where a machine is led by events that happen so long after
the given time. -/
def CallEvent.lead {σ τ : Type} (meet : σ → Nat → CallEvent → Step σ τ) (start : Nat) (s : σ)
    (es : List (Nat × CallEvent)) : σ :=
  es.foldl (fun s p => (meet s (start + p.1) p.2).next) s

@[simp] theorem CallEvent.lead_nil {σ τ : Type} (meet : σ → Nat → CallEvent → Step σ τ)
    (start : Nat) (s : σ) : lead meet start s [] = s := rfl

@[simp] theorem CallEvent.lead_concat {σ τ : Type} (meet : σ → Nat → CallEvent → Step σ τ)
    (start : Nat) (s : σ) (es : List (Nat × CallEvent)) (p : Nat × CallEvent) :
    lead meet start s (es ++ [p]) = (meet (lead meet start s es) (start + p.1) p.2).next := by
  simp [lead]

def DirectCall.meet (d : DirectCall) (now : Nat) : CallEvent → Step DirectCall DirectResult
  | .answer a => d.answer now a
  | .wake => d.wake now

/-- What happens to the holder of a lock. -/
def Lifecycle.meet (l : Lifecycle) (now : Nat) : CallEvent → Step Lifecycle OwnerResult
  | .answer a => l.step now (.answer a)
  | .wake => l.step now (.wake .holder)

/-- A renewer is answered nothing but its renewals. -/
def Renewer.meet (r : Renewer) (now : Nat) : CallEvent → Step Renewer Unit
  | .answer (.refreshed reply) => r.answer now reply
  | .answer _ => .stay r
  | .wake => r.wake now

/-! ## Runs that began at different times -/

namespace Run

variable {α ρ : Type} {start start' : Nat} {run run' : Run α}

/-- Two runs of one invocation stand alike, each counted from
its own beginning. -/
structure Beside (start start' : Nat) (run run' : Run α) : Prop where
  invocation : run'.invocation = run.invocation
  pause : ∃ due : Option Nat,
    run.resumeAt = due.map (start + ·) ∧ run'.resumeAt = due.map (start' + ·)

namespace Beside

theorem begins (start start' : Nat) (i : Invocation α) :
    Beside start start' (.start i) (.start i) :=
  ⟨rfl, none, rfl, rfl⟩

theorem request (h : Beside start start' run run') : run'.request = run.request := by
  unfold Run.request
  rw [h.invocation]

theorem isWaiting (h : Beside start start' run run') : run'.isWaiting = run.isWaiting := by
  obtain ⟨due, hrun, hrun'⟩ := h.pause
  unfold Run.isWaiting
  rw [hrun, hrun']
  cases due <;> rfl

/-- A reply ends both runs with what it comes to, or makes both pause. -/
theorem answer [HasDecision ρ] (h : Beside start start' run run') (t : Nat) (reply : Reply ρ) :
    ∃ log, (run.answer (start + t) reply = (.finished reply.outcome, log) ∧
        run'.answer (start' + t) reply = (.finished reply.outcome, log)) ∨
      ∃ next next', run.answer (start + t) reply = (.pausing next, log) ∧
        run'.answer (start' + t) reply = (.pausing next', log) ∧
        Beside start start' next next' := by
  cases hs : run.invocation.settle reply with
  | mk verdict log =>
      have hs' : run'.invocation.settle reply = (verdict, log) := by rw [h.invocation, hs]
      cases verdict with
      | finished outcome =>
          have hend : run.answer (start + t) reply = (.finished outcome, log) := by
            simp only [Run.answer, hs]
          obtain rfl := answer_finished hend
          exact ⟨log, .inl ⟨hend, by simp only [Run.answer, hs']⟩⟩
      | again next =>
          refine ⟨log, .inr ⟨⟨next, some (start + t + next.policy.pause)⟩,
            ⟨next, some (start' + t + next.policy.pause)⟩, by simp only [Run.answer, hs],
            by simp only [Run.answer, hs'], rfl, some (t + next.policy.pause), ?_, ?_⟩⟩ <;>
            simp only [Option.map_some, Nat.add_assoc]

/-- Both runs go on, or neither. -/
theorem resume? (h : Beside start start' run run') (t : Nat) :
    (run.resume? (start + t) = none ∧ run'.resume? (start' + t) = none) ∨
      ∃ next next', run.resume? (start + t) = some next ∧
        run'.resume? (start' + t) = some next' ∧ Beside start start' next next' := by
  obtain ⟨due, hrun, hrun'⟩ := h.pause
  unfold Run.resume?
  rw [hrun, hrun']
  cases due with
  | none => exact .inl ⟨rfl, rfl⟩
  | some due =>
      by_cases hdue : due ≤ t
      · right
        refine ⟨_, _, if_pos (Nat.add_le_add_left hdue start),
          if_pos (Nat.add_le_add_left hdue start'), h.invocation, none, rfl, rfl⟩
      · left
        exact ⟨if_neg fun hle => hdue (Nat.le_of_add_le_add_left hle),
          if_neg fun hle => hdue (Nat.le_of_add_le_add_left hle)⟩

end Beside

end Run

end DistLock
