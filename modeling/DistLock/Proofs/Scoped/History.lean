import DistLock.Proofs.Lifecycle.Operations

/-!
# Histories of a scope

A history is what happens to one scope from its start on, moment by
moment; it is any list of events with their times, so what holds of all
histories holds wherever the body returns or breaks down, and wherever the
scope is abandoned.

* `ScopedMoment.Turn` lists what a moment can do to a scope, and
  `turn_of_step` says that there is nothing else: the session under the
  scope meets one event, and is dropped right after it if that ends the
  scope; or the scope is left.
* `moments_split` cuts a history, and `history_induction` carries through it
  what every moment keeps.
-/

namespace DistLock

/-- What comes to a scope. -/
inductive ScopedCue (β : Type) where
  | start (a : Acquisition)
  | event (e : ScopedEvent β)

/-- One moment of a history: what came, when it came, and what it met. -/
structure ScopedMoment (β : Type) where
  now : Nat
  cue : ScopedCue β
  before : Scoped β

namespace ScopedMoment

variable {β : Type}

/-- What the moment did. -/
def step (m : ScopedMoment β) : Step (Scoped β) (ScopedResult β) :=
  match m.cue with
  | .start a => Scoped.follow .entering m.now (m.before.life.step m.now (.acquire a))
  | .event e => m.before.step m.now e

def after (m : ScopedMoment β) : Scoped β := m.step.next

def sent (m : ScopedMoment β) : Option Request := m.step.sent

/-- What the scope came to. -/
def result (m : ScopedMoment β) : Option (ScopedResult β) := m.step.result

/-- A request of the operation is sent. -/
def sends (m : ScopedMoment β) (p : Operation) : Bool := m.sent.any (·.operation == p)

/-- The first attempt of an invocation that gives the lock back. -/
def beginsUnlock (m : ScopedMoment β) : Bool := m.sends .unlock && !m.before.life.isUnlocking

/-- The invocation that gives the lock back comes to its end. -/
def endsUnlock (m : ScopedMoment β) : Bool :=
  m.before.life.isUnlocking && !m.after.life.isUnlocking

/-- The body begins. -/
def enters (m : ScopedMoment β) : Bool :=
  match m.result with
  | some (.entered _) => true
  | _ => false

/-- The body returns a value. -/
def ReturnsBody (m : ScopedMoment β) (value : β) : Prop :=
  m.before.stage = .inside ∧ m.cue = .event (.bodyReturned value)

/-- The scope is left before its end, with the given result: the body breaks
down, or the scope is abandoned. -/
inductive Leaves : ScopedMoment β → Option (ScopedResult β) → Prop
  | bodyCrashed {now life} (text : String) :
      Leaves ⟨now, .event (.bodyCrashed text), ⟨life, .inside⟩⟩ (some (.finished (.crash text)))
  | abandoned {now s} : s.stage ≠ .left → Leaves ⟨now, .event .abandon, s⟩ none

/-! ## The session under the scope -/

/-- What the session meets as long as the scope is not left. -/
def meets (m : ScopedMoment β) : Option Event :=
  match m.cue, m.before.stage with
  | .start a, _ => some (.acquire a)
  | .event (.answer a), _ => some (.answer a)
  | .event (.wake w), _ => some (.wake w)
  | .event (.bodyReturned _), .inside => some .release
  | _, _ => none

/-- What happens to the session. -/
def session (m : ScopedMoment β) : Option Moment := m.meets.map (⟨m.now, ·, m.before.life⟩)

/-- What the operation of the session came to. -/
def returned (m : ScopedMoment β) : Option OwnerResult := m.session.bind (·.result)

/-- What the moment grants. -/
def grant? (m : ScopedMoment β) : Option Grant := m.session.bind (·.grant?)

/-- The stage in which the scope takes what its session came to. -/
def stage (m : ScopedMoment β) : ScopedStage β :=
  match m.cue, m.before.stage with
  | .start _, _ => .entering
  | .event (.bodyReturned value), .inside => .leaving value
  | _, stage => stage

end ScopedMoment

/-! ## What a moment does -/

/-- `Concludes stage r outcome`: in the stage, what its session came to
ends the scope. -/
inductive Scoped.Concludes {β : Type} : ScopedStage β → OwnerResult → Outcome β → Prop
  | refused {e} : Concludes .entering (.acquired (.error e)) (.error e)
  | acquireCrashed {text} : Concludes .entering (.acquired (.crash text)) (.crash text)
  | released {value} : Concludes (.leaving value) (.released (.ok ())) (.ok value)
  | releaseFailed {value e} : Concludes (.leaving value) (.released (.error e)) (.error e)
  | releaseCrashed {value text} : Concludes (.leaving value) (.released (.crash text)) (.crash text)

/-- The scope waits for what its session comes to. -/
def Scoped.Awaits {β : Type} : ScopedStage β → OwnerResult → Prop
  | .entering, .acquired _ => True
  | .leaving _, .released _ => True
  | _, _ => False

namespace ScopedMoment

variable {β : Type} {m : ScopedMoment β}

open Scoped (Concludes Awaits leave follow)

/-- `Turn m s`: the moment `m` does `s` to the scope. -/
inductive Turn (m : ScopedMoment β) : Step (Scoped β) (ScopedResult β) → Prop
  | idle : m.session = none → (∀ result, ¬ m.Leaves result) → Turn m (.stay m.before)
  | goesOn {x} : m.session = some x → (∀ r, x.result = some r → ¬ Awaits m.stage r) →
      Turn m { next := ⟨x.after, m.stage⟩, sent := x.sent, log := x.step.log }
  | enters {x h} : m.session = some x → m.stage = .entering →
      x.result = some (.acquired (.ok h)) →
      Turn m
        { next := ⟨x.after, .inside⟩
          sent := x.sent
          log := x.step.log
          result := some (.entered h) }
  | ends {x r outcome log} : m.session = some x → x.result = some r →
      Concludes m.stage r outcome →
      Turn m
        { next := ⟨(x.after.step m.now (.drop true)).next, .left⟩
          sent := x.sent
          log
          result := some (.finished outcome) }
  | leaves {result} : m.Leaves result → Turn m (leave m.before.life m.now result)

/-- What follows from a step of the session. -/
theorem turn_of_follow {x : Moment} (hx : m.session = some x) :
    m.Turn (follow m.stage m.now x.step) := by
  have hm := Lifecycle.step_move x.before x.now x.event
  unfold follow
  split
  · rename_i h hst hr
    have hhandle : x.step.next.handle? = some h := Lifecycle.handle_of_acquired hm hr
    rw [hhandle]
    exact .enters hx hst hr
  · rename_i e hst hr
    exact .ends hx hr (hst ▸ .refused)
  · rename_i text hst hr
    exact .ends hx hr (hst ▸ .acquireCrashed)
  · rename_i value hst hr
    exact .ends hx hr (hst ▸ .released)
  · rename_i value e hst hr
    exact .ends hx hr (hst ▸ .releaseFailed)
  · rename_i value text hst hr
    exact .ends hx hr (hst ▸ .releaseCrashed)
  · rename_i hok herror hcrash hvalue hfail hbreak
    apply Turn.goesOn hx
    intro r hr hawaits
    unfold Awaits at hawaits
    split at hawaits
    · rename_i o hst
      cases o with
      | ok h => exact hok h hst hr
      | error e => exact herror e hst hr
      | crash text => exact hcrash text hst hr
    · rename_i value o hst
      cases o with
      | ok u => exact hvalue value hst hr
      | error e => exact hfail value e hst hr
      | crash text => exact hbreak value text hst hr
    · exact hawaits

theorem turn_of_step (m : ScopedMoment β) : m.Turn m.step := by
  obtain ⟨now, cue, ⟨life, stage⟩⟩ := m
  cases cue with
  | start a => exact turn_of_follow (x := ⟨now, .acquire a, life⟩) rfl
  | event e =>
      cases e with
      | answer a => exact turn_of_follow (x := ⟨now, .answer a, life⟩) rfl
      | wake w => exact turn_of_follow (x := ⟨now, .wake w, life⟩) rfl
      | bodyReturned value =>
          cases stage with
          | inside => exact turn_of_follow (x := ⟨now, .release, life⟩) rfl
          | _ => exact .idle rfl (fun _ h => nomatch h)
      | bodyCrashed text =>
          cases stage with
          | inside => exact .leaves (.bodyCrashed text)
          | _ => exact .idle rfl (fun _ h => nomatch h)
      | abandon =>
          cases stage with
          | left =>
              apply Turn.idle rfl
              rintro _ ⟨⟩
              contradiction
          | _ => exact .leaves (.abandoned (by simp))

/-! ## What the session meets -/

/-- `Meets m x`: the session meets `x` because of the moment `m`. -/
inductive Meets (m : ScopedMoment β) : Moment → Prop
  | starts {a} : m.cue = .start a → m.stage = .entering →
      Meets m ⟨m.now, .acquire a, m.before.life⟩
  | answers {a} : m.cue = .event (.answer a) → m.stage = m.before.stage →
      Meets m ⟨m.now, .answer a, m.before.life⟩
  | wakes {w} : m.stage = m.before.stage → Meets m ⟨m.now, .wake w, m.before.life⟩
  | releases {value} : m.ReturnsBody value → m.stage = .leaving value →
      Meets m ⟨m.now, .release, m.before.life⟩

theorem meets_of_session {x : Moment} (hx : m.session = some x) : m.Meets x := by
  obtain ⟨now, cue, ⟨life, stage⟩⟩ := m
  cases cue with
  | start a =>
      obtain rfl := Option.some.inj hx
      exact .starts rfl rfl
  | event e =>
      cases e with
      | answer a =>
          obtain rfl := Option.some.inj hx
          exact .answers rfl rfl
      | wake w =>
          obtain rfl := Option.some.inj hx
          exact .wakes rfl
      | bodyReturned value =>
          cases stage with
          | inside =>
              obtain rfl := Option.some.inj hx
              exact .releases ⟨rfl, rfl⟩ rfl
          | _ => cases hx
      | bodyCrashed text => cases hx
      | abandon => cases hx

theorem Meets.before {x : Moment} (h : m.Meets x) : x.before = m.before.life := by
  cases h <;> rfl

theorem Leaves.step {result : Option (ScopedResult β)} (h : m.Leaves result) :
    m.step = leave m.before.life m.now result := by
  cases h with
  | bodyCrashed text => rfl
  | @abandoned now s hst =>
      obtain ⟨life, stage⟩ := s
      cases stage with
      | left => exact absurd rfl hst
      | _ => rfl

theorem Leaves.session {result : Option (ScopedResult β)} (h : m.Leaves result) :
    m.session = none := by
  cases h <;> rfl

end ScopedMoment

/-! ## Histories -/

namespace Scoped

variable {β : Type}

/-- Where a history leads. -/
def after (s : Scoped β) (cues : List (Nat × ScopedCue β)) : Scoped β :=
  cues.foldl (fun s p => (ScopedMoment.mk p.1 p.2 s).after) s

/-- The moments of a history. -/
def moments : Scoped β → List (Nat × ScopedCue β) → List (ScopedMoment β)
  | _, [] => []
  | s, (now, cue) :: cues => ⟨now, cue, s⟩ :: moments (ScopedMoment.mk now cue s).after cues

/-- What comes to a scope that starts at the given time. -/
def cues (a : Acquisition) (now : Nat) (es : List (Nat × ScopedEvent β)) :
    List (Nat × ScopedCue β) :=
  (now, .start a) :: es.map fun p => (p.1, .event p.2)

/-- A scope before its start. -/
def fresh (policy : RetryPolicy) (autoRefresh : Bool) : Scoped β :=
  ⟨.new policy autoRefresh, .entering⟩

variable {s : Scoped β} {cues : List (Nat × ScopedCue β)} {ms₁ ms₂ : List (ScopedMoment β)}
  {m : ScopedMoment β}

/-- A history can be cut at any of its moments. -/
theorem moments_split (h : s.moments cues = ms₁ ++ m :: ms₂) :
    ∃ cues₁ cues₂, cues = cues₁ ++ (m.now, m.cue) :: cues₂ ∧ ms₁ = s.moments cues₁ ∧
      m.before = s.after cues₁ ∧ ms₂ = m.after.moments cues₂ ∧
      s.after cues = m.after.after cues₂ := by
  induction cues generalizing s ms₁ with
  | nil => cases ms₁ <;> cases h
  | cons p cues ih =>
      cases ms₁ with
      | nil =>
          obtain ⟨rfl, rfl⟩ := List.cons.inj h
          exact ⟨[], cues, rfl, rfl, rfl, rfl, rfl⟩
      | cons m₁ ms₁ =>
          obtain ⟨rfl, htail⟩ := List.cons.inj h
          obtain ⟨cues₁, cues₂, rfl, rfl, hb, rfl, hafter⟩ := ih htail
          exact ⟨p :: cues₁, cues₂, rfl, rfl, hb, rfl, hafter⟩

/-- What is kept by one more moment holds of every history. -/
theorem history_induction {P : List (ScopedMoment β) → Scoped β → Prop}
    {Q : ScopedMoment β → Prop}
    (keep : ∀ ms m, Q m → P ms m.before → P (ms ++ [m]) m.after)
    {ms : List (ScopedMoment β)} (start : P ms s) (hQ : ∀ m ∈ s.moments cues, Q m) :
    P (ms ++ s.moments cues) (s.after cues) := by
  induction cues generalizing s ms with
  | nil => simpa [moments, after] using start
  | cons p cues ih =>
      have hfirst := keep ms ⟨p.1, p.2, s⟩ (hQ _ List.mem_cons_self) start
      have hrest := ih hfirst fun m hm => hQ m (List.mem_cons_of_mem _ hm)
      rw [List.append_assoc] at hrest
      exact hrest

end Scoped

end DistLock
