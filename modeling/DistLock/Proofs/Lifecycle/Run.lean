import Mathlib.Data.List.Induction
import DistLock.Lifecycle

/-!
# Runs of a session

A run is a list of events with their times, in the order in which they come;
it is any such list, so what holds of all runs holds in every order of
polls, answers and timers, wherever an operation is abandoned.

* `after` is where a run leads, and `moments` is what happened on the way;
* `run_induction` proves something of every run together with its moments;
* `after_of_step` and `moments_of_step` do the same for what every step keeps.
-/

namespace DistLock

/-- One event of a run: what came, when it came, and what it met. -/
structure Moment where
  now : Nat
  event : Event
  before : Lifecycle

namespace Moment

/-- What the event did. -/
def step (m : Moment) : Step Lifecycle OwnerResult := m.before.step m.now m.event

def after (m : Moment) : Lifecycle := m.step.next

/-- The request that was sent. -/
def sent (m : Moment) : Option Request := m.step.sent

/-- What the owner learned. -/
def result (m : Moment) : Option OwnerResult := m.step.result

end Moment

/-- One more moment counts or does not. -/
theorem countP_concat {α : Type} (p : α → Bool) (ms : List α) (m : α) :
    (ms ++ [m]).countP p = ms.countP p + (p m).toNat := by
  rw [List.countP_append, List.countP_singleton]
  cases p m <;> rfl

namespace Lifecycle

/-- Where a run leads. -/
def after (l : Lifecycle) (es : List (Nat × Event)) : Lifecycle :=
  es.foldl (fun l p => (l.step p.1 p.2).next) l

/-- The moments of a run. -/
def moments : Lifecycle → List (Nat × Event) → List Moment
  | _, [] => []
  | l, (now, e) :: es => ⟨now, e, l⟩ :: moments (l.step now e).next es

variable {l : Lifecycle} {es : List (Nat × Event)}

@[simp] theorem after_nil : l.after [] = l := rfl

@[simp] theorem after_cons (p : Nat × Event) :
    l.after (p :: es) = (l.step p.1 p.2).next.after es := rfl

@[simp] theorem after_append (es' : List (Nat × Event)) :
    l.after (es ++ es') = (l.after es).after es' := by
  unfold after
  exact List.foldl_append

@[simp] theorem moments_nil : l.moments [] = [] := rfl

@[simp] theorem moments_cons (p : Nat × Event) :
    l.moments (p :: es) = ⟨p.1, p.2, l⟩ :: (l.step p.1 p.2).next.moments es := rfl

@[simp] theorem moments_append (es' : List (Nat × Event)) :
    l.moments (es ++ es') = l.moments es ++ (l.after es).moments es' := by
  induction es generalizing l with
  | nil => rfl
  | cons p es ih => simp [ih]

/-- What holds at the start, and is kept by one more moment,
holds of every run. -/
theorem run_induction {P : List Moment → Lifecycle → Prop} (start : P [] l)
    (more : ∀ es now e, P (l.moments es) (l.after es) →
      P (l.moments es ++ [⟨now, e, l.after es⟩]) ((l.after es).step now e).next)
    (es : List (Nat × Event)) : P (l.moments es) (l.after es) := by
  induction es using List.reverseRecOn with
  | nil => exact start
  | append_singleton es p ih => simpa using more es p.1 p.2 ih

/-- What every step keeps holds wherever a run leads. -/
theorem after_of_step {P : Lifecycle → Prop}
    (keep : ∀ l now e, P l → P (l.step now e).next) (start : P l) (es : List (Nat × Event)) :
    P (l.after es) := by
  induction es generalizing l with
  | nil => exact start
  | cons p es ih => exact ih (keep l p.1 p.2 start)

/-- What every step keeps is met by every event of a run. -/
theorem moments_of_step {P : Lifecycle → Prop}
    (keep : ∀ l now e, P l → P (l.step now e).next) (start : P l) :
    ∀ m ∈ l.moments es, P m.before := by
  induction es generalizing l with
  | nil => simp
  | cons p es ih =>
      intro m hm
      rw [moments_cons, List.mem_cons] at hm
      rcases hm with rfl | hm
      · exact start
      · exact ih (keep l p.1 p.2 start) m hm

/-- A run can be cut at any of its moments. -/
theorem moments_split {ms₁ ms₂ : List Moment} {m : Moment}
    (h : l.moments es = ms₁ ++ m :: ms₂) :
    ∃ es₁ es₂, es = es₁ ++ (m.now, m.event) :: es₂ ∧ ms₁ = l.moments es₁ ∧
      m.before = l.after es₁ ∧ ms₂ = m.after.moments es₂ := by
  induction es generalizing l ms₁ with
  | nil => simp at h
  | cons p es ih =>
      cases ms₁ with
      | nil =>
          simp only [moments_cons, List.nil_append, List.cons.injEq] at h
          obtain ⟨rfl, rfl⟩ := h
          exact ⟨[], es, rfl, rfl, rfl, rfl⟩
      | cons m₁ ms₁ =>
          simp only [moments_cons, List.cons_append, List.cons.injEq] at h
          obtain ⟨rfl, h⟩ := h
          obtain ⟨es₁, es₂, rfl, rfl, hb, rfl⟩ := ih h
          exact ⟨p :: es₁, es₂, rfl, rfl, hb, rfl⟩

/-- Every moment of a run comes after a part of the run. -/
theorem mem_moments {m : Moment} (hm : m ∈ l.moments es) :
    ∃ es₁ es₂, es = es₁ ++ (m.now, m.event) :: es₂ ∧ m.before = l.after es₁ ∧
      l.moments es = l.moments es₁ ++ m :: m.after.moments es₂ := by
  obtain ⟨ms₁, ms₂, h⟩ := List.append_of_mem hm
  obtain ⟨es₁, es₂, hes, rfl, hb, rfl⟩ := moments_split h
  exact ⟨es₁, es₂, hes, hb, h⟩

end Lifecycle

end DistLock
