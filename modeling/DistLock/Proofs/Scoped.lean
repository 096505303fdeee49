import DistLock.Proofs.Lifecycle.Results
import DistLock.Scoped

/-!
# Runs of a scope

The life under a scope is the life of a session, and consistent wherever a
run of the scope leads. A scope asks for its lock once, when it starts, and
finds a fresh session then; an acquisition that succeeds leaves it a handle
to enter its body with. So it never fails for the state of its session
(`resultsFrom_ne_invalidState`).
-/

namespace DistLock

/-- A fresh session has no complaint about its state. -/
theorem Session.begin_ne_invalidState {s : Session} {a : Acquisition} {text : String}
    (hst : s.state = .idle) : s.begin a ≠ .error (.invalidState text) := by
  unfold Session.begin
  cases hc : a.check with
  | error e =>
      have he : e ≠ .invalidState text := by
        rintro rfl
        unfold Acquisition.check at hc
        split at hc <;> simp at hc
      simpa [bind, Except.bind] using he
  | ok u =>
      by_cases hn : a.name = "" <;>
        simp [hst, hn, bind, Except.bind, pure, Except.pure, throw, throwThe,
          MonadExceptOf.throw]

namespace Scoped

variable {β : Type} {now : Nat} {autoRefresh : Bool} {l : Lifecycle}
  {move : Step Lifecycle OwnerResult}

/-- What a scope comes to in the course of a run. -/
def results : Scoped β → List (Nat × ScopedEvent β) → List (ScopedResult β)
  | _, [] => []
  | s, (now, e) :: es => (s.step now e).result.toList ++ results (s.step now e).next es

/-- What a scope comes to from its start on. -/
def resultsFrom (policy : RetryPolicy) (autoRefresh : Bool) (a : Acquisition) (now : Nat)
    (es : List (Nat × ScopedEvent β)) : List (ScopedResult β) :=
  (start policy autoRefresh a now : Step (Scoped β) (ScopedResult β)).result.toList ++
    results (start policy autoRefresh a now).next es

/-- The life is consistent with what some run granted. -/
def Sound (autoRefresh : Bool) (l : Lifecycle) : Prop := ∃ g, l.Consistent autoRefresh g

/-- What a scope relies on in a step of its session. -/
structure Reliable (autoRefresh : Bool) (move : Step Lifecycle OwnerResult) : Prop where
  sound : Sound autoRefresh move.next
  handle : ∀ h, move.result = some (.acquired (.ok h)) → move.next.handle? = some h
  acquired : ∀ text, move.result ≠ some (.acquired (.error (.invalidState text)))
  released : ∀ text, move.result ≠ some (.released (.error (.invalidState text)))

/-- What a step of a scope keeps to. -/
structure Blameless (autoRefresh : Bool) (move : Step (Scoped β) (ScopedResult β)) : Prop where
  sound : Sound autoRefresh move.next.life
  result : ∀ text, move.result ≠ some (.finished (.error (.invalidState text)))

theorem Sound.next (h : Sound autoRefresh l) (now : Nat) (e : Event) :
    Sound autoRefresh (l.step now e).next := by
  obtain ⟨g, h⟩ := h
  exact ⟨_, Lifecycle.consistent_move h (Lifecycle.step_move l now e)⟩

theorem Sound.reliable (h : Sound autoRefresh l) {e : Event} (he : ∀ a, e ≠ .acquire a) :
    Reliable autoRefresh (l.step now e) := by
  have hs := h.next now e
  obtain ⟨g, h⟩ := h
  have hm := Lifecycle.step_move l now e
  exact ⟨hs, fun _ => Lifecycle.handle_of_acquired hm,
    Lifecycle.acquired_ne_invalidState hm he, Lifecycle.released_ne_invalidState h hm⟩

theorem reliable_new (policy : RetryPolicy) (autoRefresh : Bool) (a : Acquisition) :
    Reliable autoRefresh ((Lifecycle.new policy autoRefresh).step now (.acquire a)) := by
  have hnew := Lifecycle.consistent_new policy autoRefresh
  have hm := Lifecycle.step_move (.new policy autoRefresh) now (.acquire a)
  refine ⟨Sound.next ⟨none, hnew⟩ _ _, fun _ => Lifecycle.handle_of_acquired hm, ?_,
    Lifecycle.released_ne_invalidState hnew hm⟩
  intro text hr
  cases hb : Session.begin { policy, autoRefresh } a with
  | ok s => simp [Lifecycle.step, Lifecycle.new, Session.startAcquire, hb] at hr
  | error e =>
      simp only [Lifecycle.step, Lifecycle.new, Session.startAcquire, hb, Option.some.injEq,
        OwnerResult.acquired.injEq, Outcome.error.injEq] at hr
      exact Session.begin_ne_invalidState rfl (hr ▸ hb)

/-! ## One event -/

theorem leave_blameless (h : Sound autoRefresh l) {result : Option (ScopedResult β)}
    (hr : ∀ text, result ≠ some (.finished (.error (.invalidState text)))) :
    Blameless autoRefresh (leave l now result) :=
  ⟨h.next now (.drop true), hr⟩

theorem follow_blameless (h : Reliable autoRefresh move) (stage : ScopedStage β) :
    Blameless autoRefresh (follow stage now move) := by
  -- wherever a scope ends it drops its session, and its outcome is what
  -- its session came to
  have ending {outcome : Outcome β} (ho : ∀ text, outcome ≠ .error (.invalidState text)) :
      Blameless autoRefresh { ((leave move.next now (some (.finished outcome))).after
        move.log : Step (Scoped β) (ScopedResult β)) with sent := move.sent } :=
    ⟨h.sound.next now (.drop true), fun text hr => ho text (by
      simpa [leave, Step.after, Step.returning] using hr)⟩
  unfold follow
  split
  · rename_i handle hr
    rw [h.handle handle hr]
    exact ⟨h.sound, by simp [Step.returning]⟩
  · rename_i e hr
    exact ending fun text he => h.acquired text (Outcome.error.inj he ▸ hr)
  · exact ending (by simp)
  · exact ending (by simp)
  · rename_i e hr
    exact ending fun text he => h.released text (Outcome.error.inj he ▸ hr)
  · exact ending (by simp)
  · exact ⟨h.sound, by simp [Step.silent]⟩

theorem step_blameless {s : Scoped β} (h : Sound autoRefresh s.life) (now : Nat)
    (e : ScopedEvent β) :
    Blameless autoRefresh (s.step now e) := by
  have hstay : Blameless autoRefresh (.stay s) := ⟨h, by simp [Step.stay]⟩
  cases e with
  | answer a => exact follow_blameless (h.reliable (by simp)) _
  | wake w => exact follow_blameless (h.reliable (by simp)) _
  | bodyReturned value =>
      cases hs : s.stage <;> simp only [Scoped.step, hs]
      case inside => exact follow_blameless (h.reliable (by simp)) _
      all_goals exact hstay
  | bodyCrashed text =>
      cases hs : s.stage <;> simp only [Scoped.step, hs]
      case inside => exact leave_blameless h (by simp)
      all_goals exact hstay
  | abandon =>
      cases hs : s.stage <;> simp only [Scoped.step, hs]
      case left => exact hstay
      all_goals exact leave_blameless h (by simp)

/-! ## Runs -/

theorem results_ne_invalidState {s : Scoped β} (h : Sound autoRefresh s.life)
    (es : List (Nat × ScopedEvent β)) (text : String) :
    .finished (.error (.invalidState text)) ∉ s.results es := by
  induction es generalizing s with
  | nil => simp [results]
  | cons p es ih =>
      have hp := step_blameless h p.1 p.2
      simp only [results, List.mem_append, Option.mem_toList, not_or]
      exact ⟨hp.result text, ih hp.sound⟩

/-- However its session ends, a scope does not fail for the state
of the session. -/
theorem resultsFrom_ne_invalidState (policy : RetryPolicy) (autoRefresh : Bool) (a : Acquisition)
    (now : Nat) (es : List (Nat × ScopedEvent β)) (text : String) :
    .finished (.error (.invalidState text)) ∉ resultsFrom policy autoRefresh a now es := by
  have hnew : Blameless autoRefresh (start policy autoRefresh a now :
      Step (Scoped β) (ScopedResult β)) :=
    follow_blameless (reliable_new policy autoRefresh a) .entering
  simp only [resultsFrom, List.mem_append, Option.mem_toList, not_or]
  exact ⟨hnew.result text, results_ne_invalidState hnew.sound es text⟩

end Scoped

end DistLock
