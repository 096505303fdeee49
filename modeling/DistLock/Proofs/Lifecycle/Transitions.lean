import DistLock.Proofs.Lifecycle.Calls
import DistLock.Proofs.Scoped

/-!
# The states of a session

The state of a session only moves on, along the edges of
`SessionState.LeadsTo` (`state_of_move`), and no edge leads back to `idle`;
so a session asks for its lock once (`acquires_of_run`). `session_invariant`
joins that with what a session shows in each of its states.
-/

namespace DistLock

/-- The moves from one state to the next. -/
inductive SessionState.LeadsTo : SessionState → SessionState → Prop
  | acquire : LeadsTo .idle .acquiring
  | grant : LeadsTo .acquiring .held
  | refuse : LeadsTo .acquiring .notHeld
  | release : LeadsTo .held .releasing
  | finish : LeadsTo .releasing .released

/-- No state leads back to the first. -/
theorem SessionState.LeadsTo.ne_idle {x y : SessionState} (h : x.LeadsTo y) : y ≠ .idle := by
  cases h <;> simp

theorem SessionState.LeadsTo.ne_acquiring {x y : SessionState} (h : x.LeadsTo y)
    (hx : x ≠ .idle) : y ≠ .acquiring := by
  cases h with
  | acquire => exact absurd rfl hx
  | _ => simp

/-- A session that was used, a name that is empty, and a time to wait where
there is no waiting are refused at once. -/
def Session.Refuses (s : Session) (a : Acquisition) : Prop :=
  s.state ≠ .idle ∨ a.name = "" ∨ (a.waits = false ∧ 0 < a.options.waitTimeout)

theorem Session.begin_of_refuses {s : Session} {a : Acquisition} (h : s.Refuses a) :
    ∃ error, s.begin a = .error error := by
  cases hb : s.begin a with
  | error error => exact ⟨error, rfl⟩
  | ok t =>
      obtain ⟨-, hst, hname, hcheck⟩ := Session.begin_eq_ok hb
      rcases h with h | h | ⟨hw, ht⟩
      · exact absurd hst h
      · exact absurd h hname
      · simp [Acquisition.check, hw, ht] at hcheck

theorem Session.begin_of_not_refuses {s : Session} {a : Acquisition} (h : ¬ s.Refuses a) :
    s.begin a = .ok { s with state := .acquiring } := by
  simp only [Session.Refuses, not_or, not_and, ne_eq, not_not] at h
  obtain ⟨hst, hname, hw⟩ := h
  have hcheck : a.check = .ok () := by
    unfold Acquisition.check
    rw [if_neg]
    simpa using hw
  simp [Session.begin, hcheck, hst, hname, bind, Except.bind, pure, Except.pure]

namespace Lifecycle

variable {now : Nat} {autoRefresh : Bool} {g : Option Grant} {l : Lifecycle} {e : Event}
  {step : Step Lifecycle OwnerResult}

/-- Looking for the end of the renewer begins the release, or leaves the
state as it is. -/
theorem state_of_awaitsEnd {s t : Session} {activity : Activity}
    (h : Consistent autoRefresh g (.owned s activity)) (ha : AwaitsEnd s activity e t) :
    t.state = s.state ∨ (s.state.LeadsTo t.state ∧ t.state ≠ .released) := by
  cases ha with
  | again => exact .inl rfl
  | first ho =>
      rcases (h.shows_of_owes ho).1 with hst | hst
      · exact .inr ⟨hst ▸ .release, by simp [Session.beginRelease]⟩
      · exact .inl hst.symm

/-- What a renewer does on its own leaves the state as it is. -/
theorem state_of_setRenewer {r : Renewer} {s' : Session} {activity' : Activity}
    (h : l.setRenewer r = .owned s' activity') :
    ∃ s, l = .owned s activity' ∧ s'.state = s.state := by
  cases l with
  | owned s activity =>
      obtain ⟨rfl, rfl⟩ := Lifecycle.owned.inj h
      exact ⟨s, rfl, rfl⟩
  | _ => exact absurd h (by simp [setRenewer])

/-- The state stays or moves on, and a lock is given back only by a
release that returns. -/
theorem state_of_move (h : Consistent autoRefresh g l) (hm : Move now l e step) {s' : Session}
    {activity' : Activity} (hn : step.next = .owned s' activity') :
    ∃ s activity, l = .owned s activity ∧ (s'.state = s.state ∨ s.state.LeadsTo s'.state ∧
      (s'.state = .released → step.result.any (·.isReturn) = true)) := by
  cases hm with
  | stay _ => exact ⟨s', activity', hn, .inl rfl⟩
  | renewerWakes _ | renewerAnswered _ _ =>
      obtain ⟨s, hl, hst⟩ := state_of_setRenewer hn
      exact ⟨s, activity', hl, .inl hst⟩
  | acquireBegun hb =>
      obtain ⟨rfl, -⟩ := Lifecycle.owned.inj hn
      obtain ⟨-, hst, -⟩ := Session.begin_eq_ok hb
      exact ⟨_, _, rfl, .inr ⟨hst ▸ .acquire, by simp⟩⟩
  | granted _ _ =>
      obtain ⟨rfl, -⟩ := Lifecycle.owned.inj hn
      refine ⟨_, _, rfl, .inr ?_⟩
      rw [h.activity_fits.1, Session.grant_state]
      exact ⟨.grant, by simp⟩
  | notGranted _ _ _ _ =>
      obtain ⟨rfl, -⟩ := Lifecycle.owned.inj hn
      exact ⟨_, _, rfl, .inr ⟨h.activity_fits.1 ▸ .refuse, by simp [Session.refuse]⟩⟩
  | releaseWaits ha _ _ | releaseBreaks ha _ _ | releaseUnlocks ha _ _ =>
      obtain ⟨rfl, -⟩ := Lifecycle.owned.inj hn
      -- the release has only begun, so the lock is not given back yet
      have hstate := state_of_awaitsEnd h ha
      exact ⟨_, _, rfl, hstate.imp_right (And.imp_right fun hne h => absurd h hne)⟩
  | releaseLost ha hx => exact absurd hx (h.handle_ne_none ha)
  | released _ hreply hres =>
      obtain ⟨rfl, -⟩ := Lifecycle.owned.inj hn
      have hreturn := (Session.concludeRelease_result hreply hres).1
      exact ⟨_, _, rfl, .inr ⟨h.activity_fits.1 ▸ .finish, fun _ => hreturn⟩⟩
  | acquireRefused _ | acquireRetried _ | acquirePaused _ _ | acquireCrashed _ | releaseIdle _
  | unlockRetried _ | unlockPaused _ _ | unlockCrashed _ | abandoned =>
      obtain ⟨rfl, -⟩ := Lifecycle.owned.inj hn
      exact ⟨_, _, rfl, .inl rfl⟩
  | _ => exact absurd hn (by simp [Step.stay])

/-! ## Asking once -/

/-- How often the lock can still be asked for. -/
def acquiresLeft : Lifecycle → Nat
  | .owned s _ => if s.state = .idle then 1 else 0
  | _ => 0

theorem acquiresLeft_le (h : Consistent autoRefresh g l) (hm : Move now l e step) :
    step.next.acquiresLeft ≤ l.acquiresLeft := by
  cases hn : step.next with
  | owned s' activity' =>
      obtain ⟨s, activity, rfl, hsame | ⟨hnext, -⟩⟩ := state_of_move h hm hn
      · simp [acquiresLeft, hsame]
      · simp [acquiresLeft, hnext.ne_idle]
  | _ => simp [acquiresLeft]

/-- Who begins to ask for the lock cannot do so again. -/
theorem acquiresLeft_of_sends {l' : Lifecycle} {q : Request} (hs : Sends g l l' q)
    (hop : q.operation = .lock ∨ q.operation = .tryLock) (hfirst : l.isAcquiring = false) :
    l.acquiresLeft = 1 ∧ l'.acquiresLeft = 0 := by
  cases hs with
  | renewal _ _ hq => simp [hq] at hop
  | firstAcquire hst => simp [acquiresLeft, hst]
  | acquireAgain _ => simp [isAcquiring] at hfirst
  | firstUnlock _ _ _ _ _ _ => simp [Request.operation] at hop
  | unlockAgain _ _ _ _ _ _ => simp [Request.operation] at hop

theorem acquiresLeft_of_moment {m : Moment} (h : Consistent autoRefresh g m.before) :
    m.beginsAcquire.toNat + m.after.acquiresLeft ≤ m.before.acquiresLeft := by
  have hm := step_move m.before m.now m.event
  cases hb : m.beginsAcquire with
  | false =>
      rw [Bool.toNat_false, Nat.zero_add]
      exact acquiresLeft_le h hm
  | true =>
      obtain ⟨⟨q, hsent, hop⟩, hfirst⟩ := Moment.beginsAcquire_eq_true.1 hb
      obtain ⟨hbefore, hafter⟩ := acquiresLeft_of_sends (sends_of_move h hm hsent) hop hfirst
      exact (by simp [hbefore, show m.after.acquiresLeft = 0 from hafter])

/-- A lock is asked for once in the life of a session. -/
theorem acquires_of_run (policy : RetryPolicy) (autoRefresh : Bool) (es : List (Nat × Event)) :
    ((new policy autoRefresh).moments es).countP Moment.beginsAcquire +
      ((new policy autoRefresh).after es).acquiresLeft ≤ 1 := by
  refine run_induction (P := fun ms l => ms.countP Moment.beginsAcquire + l.acquiresLeft ≤ 1)
    (by simp [new, acquiresLeft]) ?_ es
  intro es now e ih
  have hstep := acquiresLeft_of_moment (m := ⟨now, e, (new policy autoRefresh).after es⟩)
    (consistent_run policy autoRefresh es)
  rw [countP_concat]
  simp only [Moment.after, Moment.step] at hstep
  omega

/-! ## The whole -/

/-- A wish for a lock that is refused leaves no trace, and
any other is sent. -/
theorem acquire_step (now : Nat) (s : Session) (a : Acquisition) :
    (s.Refuses a → ∃ error, (Lifecycle.owned s .resting).step now (.acquire a) =
      { next := .owned s .resting, result := some (.acquired (.error error)) }) ∧
    (¬ s.Refuses a → ((Lifecycle.owned s .resting).step now (.acquire a)).sent =
      some a.request) := by
  refine ⟨fun h => ?_, fun h => ?_⟩
  · obtain ⟨error, hb⟩ := Session.begin_of_refuses h
    exact ⟨error, by simp only [Lifecycle.step, Session.startAcquire, hb]⟩
  · simp only [Lifecycle.step, Session.startAcquire, Session.begin_of_not_refuses h]

/-- Whatever its owner, its renewer and the service do, in whatever order,
and wherever an operation is abandoned: a session shows what fits its state,
its state only moves on, its lock is asked for at most once, what is refused
leaves no trace, and neither a release nor a scope ever finds the session in
a state that it should not be in, such as one without a handle. -/
theorem session_invariant (policy : RetryPolicy) (autoRefresh : Bool) (es : List (Nat × Event)) :
    (∀ s activity, (new policy autoRefresh).after es = .owned s activity →
      s.autoRefresh = autoRefresh ∧ s.Fits (granted ((new policy autoRefresh).moments es))) ∧
    (∀ m ∈ (new policy autoRefresh).moments es, ∀ s activity s' activity',
      m.before = .owned s activity → m.after = .owned s' activity' →
      s'.state = s.state ∨ s.state.LeadsTo s'.state) ∧
    ((new policy autoRefresh).moments es).countP Moment.beginsAcquire ≤ 1 ∧
    (∀ m ∈ (new policy autoRefresh).moments es, ∀ s a,
      m.before = .owned s .resting → m.event = .acquire a →
      (s.Refuses a → m.after = m.before ∧ m.sent = none ∧
        ∃ error, m.result = some (.acquired (.error error))) ∧
      (¬ s.Refuses a → m.sent = some a.request)) ∧
    (∀ m ∈ (new policy autoRefresh).moments es, ∀ text,
      m.result ≠ some (.released (.error (.invalidState text)))) ∧
    (∀ (β : Type) (a : Acquisition) (now : Nat) (events : List (Nat × ScopedEvent β)), ∀ text,
      .finished (.error (.invalidState text)) ∉
        Scoped.resultsFrom policy autoRefresh a now events) := by
  refine ⟨?_, ?_, ?_, ?_, ?_, ?_⟩
  · intro s activity hl
    have h := consistent_run policy autoRefresh es
    rw [hl] at h
    exact ⟨h.2.2.2.1, h.fits⟩
  · intro m hm s activity s' activity' hb ha
    obtain ⟨ms₁, ms₂, hsplit⟩ := List.append_of_mem hm
    obtain ⟨s₀, activity₀, hl, hstate⟩ :=
      state_of_move (consistent_before hsplit) (step_move m.before m.now m.event) ha
    obtain ⟨rfl, -⟩ := Lifecycle.owned.inj (hb.symm.trans hl)
    exact hstate.imp_right And.left
  · exact Nat.le_of_add_right_le (acquires_of_run policy autoRefresh es)
  · -- the step that refuses is known as a whole
    rintro ⟨now, e, l⟩ - s a hb he
    obtain rfl : l = .owned s .resting := hb
    obtain rfl : e = .acquire a := he
    obtain ⟨hrefused, hsent⟩ := acquire_step now s a
    refine ⟨fun h => ?_, hsent⟩
    obtain ⟨error, hstep⟩ := hrefused h
    exact ⟨congrArg Step.next hstep, congrArg Step.sent hstep, error,
      congrArg Step.result hstep⟩
  · intro m hm text
    obtain ⟨ms₁, ms₂, hsplit⟩ := List.append_of_mem hm
    have hmove := step_move m.before m.now m.event
    exact released_ne_invalidState (consistent_before hsplit) hmove text
  · intro β a now events text
    exact Scoped.resultsFrom_ne_invalidState policy autoRefresh a now events text

/-- A lock with a lease that was granted is held, and its
handle shows the key. -/
theorem session_invariant_granted :
    ∃ s, (new {} true).after grantedRun = .owned s .resting ∧ s.state = .held ∧
      s.Fits (some ⟨"job-42", "key-1", 20⟩) := by
  obtain ⟨hfits, -⟩ := session_invariant {} true grantedRun
  exact ⟨_, rfl, rfl, (hfits _ _ rfl).2⟩

end Lifecycle

end DistLock
