import DistLock.Proofs.Lifecycle.Accounting
import DistLock.Proofs.Lifecycle.Holding
import DistLock.Scoped

/-!
# Those who use locks

A *party* is one who uses a lock: the owner of a session, or a scope around
a body. Several of them live beside each other, each with a life of its own.

* `Stride` is all that a step of a party does to the life under it
  (`Party.step_stride`, `Party.answer_stride`, `Party.Begins.stride`): one
  event, and the drop of the session if the scope is left.
* `bodyAfter` keeps account of the handle that a body received when it
  began; `Party.Houses` says that the life under the body shows it as long
  as it runs (`Party.houses_step`).
-/

namespace DistLock

/-- What stands in a table at whose entry `i` something was changed. -/
theorem update_eq_some {ι α : Type} [DecidableEq ι] {f : ι → Option α} {i j : ι} {o : Option α}
    {x : α} (h : Function.update f i o j = some x) :
    (j = i ∧ o = some x) ∨ (j ≠ i ∧ f j = some x) := by
  by_cases hj : j = i
  · subst hj
    exact .inl ⟨rfl, by simpa using h⟩
  · exact .inr ⟨hj, by simpa [hj] using h⟩

/-- One who uses a lock: the owner of a session, or a scope. -/
inductive Party (β : Type) where
  | session (life : Lifecycle)
  | scope (s : Scoped β)

/-- What happens to a party. -/
inductive PartyEvent (β : Type) where
  | session (e : Event)
  | scope (e : ScopedEvent β)

def Event.isAnswer : Event → Bool
  | .answer _ => true
  | _ => false

namespace PartyEvent

variable {β : Type}

def isAnswer : PartyEvent β → Bool
  | .session e => e.isAnswer
  | .scope (.answer _) => true
  | .scope _ => false

/-- No session is dropped where its release cannot run in the background. -/
def isOrderly : PartyEvent β → Bool
  | .session e => e.isOrderly
  | .scope _ => true

end PartyEvent

namespace Party

variable {β : Type}

/-- The life of the session that a party uses. -/
def life : Party β → Lifecycle
  | .session life => life
  | .scope s => s.life

/-- What one event does. -/
def step (p : Party β) (now : Nat) : PartyEvent β → Step (Party β) (ScopedResult β)
  | .session e =>
    match p with
    | .session life => ((life.step now e).lift .session).silent
    | .scope _ => .stay p
  | .scope e =>
    match p with
    | .session _ => .stay p
    | .scope s => (s.step now e).lift .scope

/-- The answer to a call arrives. -/
def answer (p : Party β) (now : Nat) (a : Answer) : Step (Party β) (ScopedResult β) :=
  match p with
  | .session _ => p.step now (.session (.answer a))
  | .scope _ => p.step now (.scope (.answer a))

/-- How a party comes into being: with a fresh session, or as a
scope that begins. -/
inductive Begins : Step (Party β) (ScopedResult β) → Prop
  | session (policy : RetryPolicy) (autoRefresh : Bool) :
      Begins (.stay (.session (.new policy autoRefresh)))
  | scope (policy : RetryPolicy) (autoRefresh : Bool) (a : Acquisition) (now : Nat) :
      Begins ((Scoped.start policy autoRefresh a now).lift .scope)

/-- The body of a scope runs. -/
def isInside : Party β → Bool
  | .session _ => false
  | .scope s =>
    match s.stage with
    | .inside => true
    | _ => false

end Party

/-- The handle of the body that runs after a step, as the body received it. -/
def bodyAfter {β : Type} (before : Option LockHandle) (s : Step (Party β) (ScopedResult β)) :
    Option LockHandle :=
  match s.result with
  | some (.entered h) => some h
  | some (.finished _) => none
  | none => if s.next.isInside then before else none

namespace Lifecycle

/-- `Stride now l e l' q`: of the life `l`, the event `e`, if there is one,
makes `l'` and sends `q`; the session may be dropped right after it. -/
inductive Stride (now : Nat) (l : Lifecycle) :
    Option Event → Lifecycle → Option Request → Prop
  | still : Stride now l none l none
  | plain {e} : Stride now l (some e) (l.step now e).next (l.step now e).sent
  | leaving {e} :
      Stride now l (some e) ((l.step now e).next.step now (.drop true)).next (l.step now e).sent

/-- The session is at rest with its handle, and nobody has begun to
give its lock back. -/
def Rests (h : LockHandle) (l : Lifecycle) : Prop :=
  ∃ s, l = .owned s .resting ∧ (s.state = .held ∨ s.state = .notHeld) ∧ s.handle = some h

variable {now : Nat} {l : Lifecycle} {e : Event} {step : Step Lifecycle OwnerResult}
  {h : LockHandle}

/-- Whoever is told that an acquisition succeeded has a session at rest. -/
theorem rests_of_acquired (hm : Move now l e step)
    (hr : step.result = some (.acquired (.ok h))) : Rests h step.next := by
  have hhandle := handle_of_acquired hm hr
  cases hm with
  | granted _ _ => exact ⟨_, rfl, .inl Session.grant_state, hhandle⟩
  | notGranted _ _ _ _ => exact ⟨_, rfl, .inr rfl, hhandle⟩
  | _ => exact absurd hr (by simp [Step.stay, Step.silent])

theorem Rests.setRenewer (hl : Rests h l) (r : Renewer) : Rests h (l.setRenewer r) := by
  obtain ⟨s, rfl, hst, hx⟩ := hl
  exact ⟨{ s with renewer := some r }, rfl, hst, hx⟩

/-- As long as its owner does nothing, what comes to a session at rest is a
matter of its renewer. -/
theorem Rests.of_move (hl : Rests h l) (hm : Move now l e step)
    (he : e.isAnswer = true ∨ ∃ w, e = .wake w) : Rests h step.next := by
  cases hm with
  | stay _ => exact hl
  | renewerWakes _ | renewerAnswered _ _ => exact hl.setRenewer _
  | releaseWaits ha _ _ | releaseBreaks ha _ _ | releaseUnlocks ha _ _ | releaseLost ha _ =>
      obtain ⟨s, hs, -⟩ := hl
      cases ha with
      | first _ => simp [Event.isAnswer] at he
      -- whoever goes on with a release is not at rest
      | again => simp at hs
  | acquireRefused _ | acquireBegun _ | releaseIdle _ | abandoned | handedOver _ _ | letGo _ =>
      simp [Event.isAnswer] at he
  | _ =>
      obtain ⟨s, hs, -⟩ := hl
      simp at hs

end Lifecycle

/-! ## What a stride does to the wait for an answer -/

namespace Lifecycle.Stride

variable {now : Nat} {l l' : Lifecycle} {e : Option Event} {q : Option Request} {r : Request}

theorem awaits (hs : l.Stride now e l' q) (h : l.awaits = some r) :
    l'.awaits = some r ∨ l'.awaits = none := by
  cases hs with
  | still => exact .inl h
  | plain => exact awaits_of_move (step_move _ _ _) h
  | @leaving e =>
      rcases awaits_of_move (step_move l now e) h with hmid | hmid
      · exact awaits_of_move (step_move _ _ _) hmid
      · exact .inr (awaits_of_drop hmid true)

theorem awaits_of_sent (hs : l.Stride now e l' q) (hq : q = some r) (hr : r.worker = .holder) :
    l'.awaits = some r ∨ l'.awaits = none := by
  cases hs with
  | still => simp at hq
  | plain => exact .inl (Lifecycle.awaits_of_sent (step_move _ _ _) hq hr)
  | @leaving e =>
      have hmid := Lifecycle.awaits_of_sent (step_move l now e) hq hr
      exact awaits_of_move (step_move _ _ _) hmid

end Lifecycle.Stride

/-! ## What a party does to the life under it -/

namespace Scoped

variable {β : Type} {now : Nat} {l : Lifecycle} {e : Event}

theorem follow_stride (stage : ScopedStage β) :
    l.Stride now (some e) (follow stage now (l.step now e)).next.life
      (follow stage now (l.step now e)).sent := by
  unfold follow
  split
  · split
    · exact .plain
    · exact .leaving
  all_goals first | exact .leaving | exact .plain

/-- A scope does not answer its own calls, and lets go of its session where
its release can run in the background. -/
theorem step_stride (s : Scoped β) (now : Nat) (e : ScopedEvent β)
    (he : ∀ a, e ≠ .answer a) :
    ∃ ev : Option Event, (∀ x ∈ ev, x.isAnswer = false ∧ x.isOrderly = true) ∧
      s.life.Stride now ev (s.step now e).next.life (s.step now e).sent := by
  cases e with
  | answer a => exact absurd rfl (he a)
  | wake w =>
      exact ⟨some (.wake w), by simp [Event.isAnswer, Event.isOrderly], follow_stride s.stage⟩
  | bodyReturned value =>
      cases hs : s.stage <;> simp only [Scoped.step, hs]
      case inside =>
        exact ⟨some .release, by simp [Event.isAnswer, Event.isOrderly], follow_stride _⟩
      all_goals exact ⟨none, by simp, .still⟩
  | bodyCrashed text =>
      cases hs : s.stage <;> simp only [Scoped.step, hs]
      case inside => exact ⟨some (.drop true), by simp [Event.isAnswer, Event.isOrderly], .plain⟩
      all_goals exact ⟨none, by simp, .still⟩
  | abandon =>
      cases hs : s.stage <;> simp only [Scoped.step, hs]
      case left => exact ⟨none, by simp, .still⟩
      all_goals exact ⟨some (.drop true), by simp [Event.isAnswer, Event.isOrderly], .plain⟩

end Scoped

namespace Party

variable {β : Type} {p : Party β} {now : Nat} {e : PartyEvent β} {before : Option LockHandle}
  {s : Step (Party β) (ScopedResult β)}

/-- What a party does on its own. -/
theorem step_stride (p : Party β) (now : Nat) (he : e.isAnswer = false) :
    ∃ ev : Option Event,
      (∀ x ∈ ev, x.isAnswer = false ∧ (e.isOrderly = true → x.isOrderly = true)) ∧
      p.life.Stride now ev (p.step now e).next.life (p.step now e).sent := by
  cases e with
  | session ev =>
      cases p with
      | session life =>
          refine ⟨some ev, ?_, .plain⟩
          rintro x ⟨⟩
          exact ⟨he, id⟩
      | scope s => exact ⟨none, by simp, .still⟩
  | scope ev =>
      cases p with
      | session life => exact ⟨none, by simp, .still⟩
      | scope s =>
          have hev : ∀ a, ev ≠ .answer a := by
            rintro a rfl
            simp [PartyEvent.isAnswer] at he
          obtain ⟨ev', hown, hstride⟩ := s.step_stride now ev hev
          exact ⟨ev', fun x hx => (hown x hx).imp_right fun h _ => h, hstride⟩

theorem answer_stride (p : Party β) (now : Nat) (a : Answer) :
    p.life.Stride now (some (.answer a)) (p.answer now a).next.life (p.answer now a).sent := by
  cases p with
  | session life => exact .plain
  | scope s => exact Scoped.follow_stride s.stage

theorem Begins.stride (hs : Begins s) :
    ∃ policy autoRefresh now, ∃ ev : Option Event,
      (∀ x ∈ ev, x.isAnswer = false ∧ x.isOrderly = true) ∧
      (Lifecycle.new policy autoRefresh).Stride now ev s.next.life s.sent := by
  cases hs with
  | session policy autoRefresh => exact ⟨policy, autoRefresh, 0, none, by simp, .still⟩
  | scope policy autoRefresh a now =>
      exact ⟨policy, autoRefresh, now, some (.acquire a),
        by simp [Event.isAnswer, Event.isOrderly], Scoped.follow_stride .entering⟩

/-! ## The body of a scope -/

/-- The body that runs, if one does, received the handle that the session
under it shows, and nobody has begun to give its lock back. -/
def Houses (p : Party β) (body : Option LockHandle) : Prop :=
  if p.isInside then ∃ h, body = some h ∧ p.life.Rests h else body = none

theorem isInside_scope {s : Scoped β} : (Party.scope s).isInside = true ↔ s.stage = .inside := by
  cases hs : s.stage <;> simp [isInside, hs]

/-- Where no body runs after a step, none is accounted for. -/
theorem houses_outside (hout : s.next.isInside = false)
    (hr : s.result = none ∨ ∃ outcome, s.result = some (.finished outcome)) :
    s.next.Houses (bodyAfter before s) := by
  simp only [Houses, hout, Bool.false_eq_true, if_false, bodyAfter]
  rcases hr with hr | ⟨outcome, hr⟩ <;> rw [hr]

/-- A body goes on as long as its session rests with the handle. -/
theorem houses_inside (hr : s.result = none) {h : LockHandle} (hbefore : before = some h)
    (hin : s.next.isInside = true) (hrests : s.next.life.Rests h) :
    s.next.Houses (bodyAfter before s) := by
  simp only [Houses, bodyAfter, hr, hin, if_true]
  exact ⟨h, hbefore, hrests⟩

theorem Houses.rests {s : Scoped β} (h : (Party.scope s).Houses before) (hs : s.stage = .inside) :
    ∃ x, before = some x ∧ s.life.Rests x := by
  rwa [Houses, if_pos (isInside_scope.2 hs)] at h

/-- A party that does nothing leaves its body as it is. -/
theorem houses_stay (h : p.Houses before) :
    p.Houses (bodyAfter before (.stay p : Step (Party β) (ScopedResult β))) := by
  cases hin : p.isInside with
  | true =>
      rw [Houses, if_pos hin] at h
      obtain ⟨x, hbefore, hrests⟩ := h
      exact houses_inside (s := .stay p) rfl hbefore hin hrests
  | false => exact houses_outside (s := .stay p) hin (.inl rfl)

/-- A body begins with the handle that its session shows. -/
theorem houses_follow {stage : ScopedStage β} {l : Lifecycle} {ev : Event}
    (hstage : stage ≠ .inside) :
    Houses ((Scoped.follow stage now (l.step now ev)).lift .scope).next
      (bodyAfter before ((Scoped.follow stage now (l.step now ev)).lift .scope)) := by
  have hm := Lifecycle.step_move l now ev
  unfold Scoped.follow
  split
  · rename_i handle hr
    simp only [Lifecycle.handle_of_acquired hm hr]
    exact ⟨handle, rfl, Lifecycle.rests_of_acquired hm hr⟩
  · exact houses_outside rfl (.inr ⟨_, rfl⟩)
  · exact houses_outside rfl (.inr ⟨_, rfl⟩)
  · exact houses_outside rfl (.inr ⟨_, rfl⟩)
  · exact houses_outside rfl (.inr ⟨_, rfl⟩)
  · exact houses_outside rfl (.inr ⟨_, rfl⟩)
  · refine houses_outside ?_ (.inl rfl)
    exact Bool.eq_false_iff.2 fun hin => hstage (isInside_scope.1 hin)

/-- While a body runs, what comes to the session under it is a matter
of its renewer. -/
theorem houses_event {s : Scoped β} (h : (Party.scope s).Houses before) {ev : Event}
    (hev : ev.isAnswer = true ∨ ∃ w, ev = .wake w) :
    Houses ((Scoped.follow s.stage now (s.life.step now ev)).lift .scope).next
      (bodyAfter before ((Scoped.follow s.stage now (s.life.step now ev)).lift .scope)) := by
  -- a body that runs goes on; outside, one can only begin
  by_cases hs : s.stage = .inside
  · obtain ⟨x, hbefore, hrests⟩ := h.rests hs
    rw [hs]
    exact houses_inside rfl hbefore rfl (hrests.of_move (Lifecycle.step_move _ _ _) hev)
  · exact houses_follow hs

/-- Whatever happens to a scope, the session under its body shows what
the body received. -/
theorem houses_step (h : p.Houses before) (now : Nat) (e : PartyEvent β) :
    (p.step now e).next.Houses (bodyAfter before (p.step now e)) := by
  cases e with
  | session ev =>
      cases p with
      | session life => exact houses_outside rfl (.inl rfl)
      | scope s => exact houses_stay h
  | scope ev =>
      cases p with
      | session life => exact houses_stay h
      | scope s =>
          cases ev with
          | answer a => exact houses_event h (.inl rfl)
          | wake w => exact houses_event h (.inr ⟨w, rfl⟩)
          | bodyReturned value =>
              cases hs : s.stage <;> simp only [Party.step, Scoped.step, hs]
              case inside => exact houses_follow (by simp)
              all_goals exact houses_stay h
          | bodyCrashed text =>
              cases hs : s.stage <;> simp only [Party.step, Scoped.step, hs]
              case inside => exact houses_outside rfl (.inr ⟨_, rfl⟩)
              all_goals exact houses_stay h
          | abandon =>
              cases hs : s.stage <;> simp only [Party.step, Scoped.step, hs]
              case left => exact houses_stay h
              all_goals exact houses_outside rfl (.inl rfl)

theorem houses_answer (h : p.Houses before) (now : Nat) (a : Answer) :
    (p.answer now a).next.Houses (bodyAfter before (p.answer now a)) := by
  cases p with
  | session life => exact houses_step h now (.session (.answer a))
  | scope s => exact houses_step h now (.scope (.answer a))

theorem Begins.houses (hs : Begins s) : s.next.Houses (bodyAfter before s) := by
  cases hs with
  | session policy autoRefresh => exact houses_outside rfl (.inl rfl)
  | scope policy autoRefresh a now => exact houses_follow (by simp)

end Party

end DistLock
