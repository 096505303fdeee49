import DistLock.Proofs.Lifecycle.RenewalOrder
import DistLock.Proofs.Scoped.Tracking

/-!
# Every exit of a scope

A scope is left in one of three ways, and gives its lock back in each:

* its acquisition fails, and there is nothing to give back
  (`finished_of_refused`);
* its body returned, and the release that follows comes to its
  end (`ReturnsAfter`);
* its body breaks down, or the scope is abandoned, and its session,
  dropped where its release can run in the background, hands the lock
  over (`HandsOver`).

The account of `Tracks` covers the first two; from the moment at which the
scope is left, what is due is begun once (`Tracks.accountOfBackground`).
`scope_gives_back` joins them.
-/

namespace DistLock.Scoped

variable {β : Type} {autoRefresh : Bool} {m : ScopedMoment β} {ms : List (ScopedMoment β)}
  {s : Scoped β} {grant : Grant}

open Lifecycle

/-! ## What gives the lock back -/

/-- What is sent to give a lock back gives back what was granted, when the
renewer is over. -/
theorem Tracks.unlock (h : Tracks autoRefresh ms m.before) (hs : m.sends .unlock = true) :
    ∃ x grant, m.session = some x ∧ granted ms = some grant ∧
      m.sent = some (.unlock grant.unlockRequest) ∧ x.after.isUnlocking = true ∧
      RenewalOver m.before.life.renewer? ∧ x.after.renewer? = none := by
  obtain ⟨u, hu⟩ := exists_unlock hs
  cases hx : m.session with
  | none => exact absurd (hu.symm.trans (sent_of_idle hx)) (by simp)
  | some x =>
      have hb := (ScopedMoment.meets_of_session hx).before
      have hc := h.consistent
      rw [← hb] at hc
      have hsent : x.sent = some (.unlock u) := (sent_of_session hx).symm.trans hu
      obtain ⟨⟨grant, hg, rfl⟩, -, hun, hover, hnone⟩ :=
        (sends_of_move hc (step_move _ _ _) hsent).unlock
      exact ⟨x, grant, rfl, hg, hu, hun, hb ▸ hover, hnone⟩

/-- While the body runs nothing gives the lock back. -/
theorem Tracks.sends_inside (h : Tracks autoRefresh ms m.before) (hm : m.IsProper)
    (hst : m.before.stage = .inside) (hbody : ∀ value, m.cue ≠ .event (.bodyReturned value)) :
    m.sends .unlock = false := by
  rw [← Bool.not_eq_true]
  intro hs
  obtain ⟨x, -, hx, -, -, hun, -⟩ := h.unlock hs
  obtain ⟨handle, hrests⟩ : ∃ x, m.before.life.Rests x := by
    simpa [Stands, hst] using h.stands
  have hafter {e : Event} (he : e.isAnswer = true ∨ ∃ w, e = .wake w)
      (hun : (m.before.life.step m.now e).next.isUnlocking = true) : False := by
    obtain ⟨s, hl, -⟩ := hrests.of_move (step_move _ _ _) he
    rw [hl] at hun
    cases hun
  cases ScopedMoment.meets_of_session hx with
  | starts hcue _ => exact absurd (hst.symm.trans (hm.entering hcue)) (by simp)
  | answers _ _ => exact hafter (.inl rfl) hun
  | wakes _ => exact hafter (.inr ⟨_, rfl⟩) hun
  | releases hret _ => exact hbody _ hret.2

/-! ## What is granted -/

/-- A lock is granted to a scope that enters, if ever. -/
theorem Stands.grant? (hs : m.before.Stands) (hst : m.before.stage ≠ .entering) :
    m.grant? = none := by
  cases hx : m.session with
  | none => exact grant?_of_idle hx
  | some x =>
      rw [grant?_of_session hx]
      cases hg : x.grant? with
      | none => rfl
      | some grant =>
          obtain ⟨session, a, run, reply, key, hl, -⟩ := grant?_eq_some hg
          rw [(ScopedMoment.meets_of_session hx).before] at hl
          cases hstage : m.before.stage with
          | entering => exact absurd hstage hst
          | inside =>
              obtain ⟨handle, session', hl', -⟩ : ∃ x, m.before.life.Rests x := by
                simpa [Stands, hstage] using hs
              simp [hl] at hl'
          | leaving value =>
              obtain ⟨session', activity, hl', hact⟩ : m.before.life.Yields := by
                simpa [Stands, hstage] using hs
              obtain ⟨-, rfl⟩ := Lifecycle.owned.inj (hl.symm.trans hl')
              simp at hact
          | left =>
              have hdropped : IsDropped m.before.life := by
                simpa [Stands, hstage] using hs
              rw [hl] at hdropped
              exact hdropped.elim

theorem entering_of_entering (hm : m.IsProper) (h : m.after.stage = .entering) :
    m.before.stage = .entering := by
  rcases stage_of_step hm with ⟨hleft, -⟩ | ⟨hst, -⟩ | ⟨hafter, -⟩
  · exact absurd (h.symm.trans hleft) (by simp)
  · exact hst
  · rcases stage_cases hm with hsame | ⟨value, -, hleaving⟩
    · exact hsame.symm.trans (hafter.symm.trans h)
    · exact absurd (h.symm.trans (hafter.trans hleaving)) (by simp)

/-- The body begins in a scope that enters. -/
theorem entering_of_enters (hm : m.IsProper) (h : m.enters = true) :
    m.before.stage = .entering := by
  rcases stage_of_step hm with ⟨-, hno⟩ | ⟨hst, -⟩ | ⟨-, hno⟩
  · exact absurd (h.symm.trans hno) (by simp)
  · exact hst
  · exact absurd (h.symm.trans hno) (by simp)

/-- Once it is past its entry a scope is granted nothing. -/
theorem granted_of_past {cues : List (Nat × ScopedCue β)} (hs : s.Stands)
    (hst : s.stage ≠ .entering) (hp : ∀ m ∈ s.moments cues, m.IsProper) :
    granted (s.moments cues) = none := by
  obtain ⟨hall, -⟩ := keeps_scope (P := fun s => s.Stands ∧ s.stage ≠ .entering)
    (fun m hm h => ⟨stands_of_turn h.1 hm m.turn_of_step,
      fun hentering => h.2 (entering_of_entering hm hentering)⟩) ⟨hs, hst⟩ hp
  exact List.findSome?_eq_none_iff.2 fun m hm => (hall m hm).1.grant? (hall m hm).2

theorem Tracks.granted_of_entering (h : Tracks autoRefresh ms s) (hst : s.stage = .entering) :
    granted ms = none := by
  have hseeks : s.life.Seeks := by
    simpa [Stands, hst] using h.stands
  exact hseeks.granted h.consistent

/-- An acquisition comes to something in a scope that enters. -/
theorem Stands.acquired (hs : m.before.Stands) (hm : m.IsProper) {o : Outcome LockHandle}
    (hr : m.returned = some (.acquired o)) :
    m.before.stage = .entering ∧ ∃ x, m.session = some x ∧ x.result = some (.acquired o) := by
  obtain ⟨x, hx, hxr, hawaits⟩ := hs.returned hm hr
  refine ⟨?_, x, hx, hxr⟩
  rcases stage_cases hm with hsame | ⟨value, -, hleaving⟩
  · rw [hsame] at hawaits
    cases hst : m.before.stage with
    | entering => rfl
    | _ =>
        rw [hst] at hawaits
        exact hawaits.elim
  · rw [hleaving] at hawaits
    exact hawaits.elim

/-! ## After a body that returned -/

/-- A scope whose body returned gives its lock back, or is left. -/
theorem leaving_of_returns {value : β} {cues : List (Nat × ScopedCue β)}
    (hst : s.stage = .leaving value ∨ s.stage = .left)
    (hp : ∀ m ∈ s.moments cues, m.IsProper) :
    ∀ m ∈ s.moments cues, m.before.stage = .leaving value ∨ m.before.stage = .left := by
  refine (keeps_scope (P := fun s => s.stage = .leaving value ∨ s.stage = .left) ?_ hst hp).1
  intro m hm h
  rcases h with h | h
  · rcases stage_of_step hm with ⟨hleft, -⟩ | ⟨hentering, -⟩ | ⟨hafter, -⟩
    · exact .inr hleft
    · exact absurd (h.symm.trans hentering) (by simp)
    · rcases stage_cases hm with hsame | ⟨value', hret, -⟩
      · exact .inl (hafter.trans (hsame.trans h))
      · exact absurd (h.symm.trans hret.1) (by simp)
  · exact .inr (left_of_left hm h)

/-- A scope that finishes after its body returned is ended by its release. -/
theorem released_of_finished (hm : m.IsProper) {value : β} {outcome : Outcome β}
    (hst : m.stage = .leaving value ∨ m.before.stage = .left)
    (hr : m.result = some (.finished outcome)) :
    ∃ x o, m.session = some x ∧ x.result = some (.released o) ∧ m.stage = .leaving value ∧
      Concludes (.leaving value) (.released o) outcome := by
  rcases finished_cases hr with ⟨x, r, hx, hxr, hc⟩ | hl
  · rcases hst with hst | hst
    · rw [hst] at hc
      obtain ⟨o, rfl⟩ : ∃ o, r = .released o := by cases hc <;> exact ⟨_, rfl⟩
      exact ⟨x, o, hx, hxr, hst, hc⟩
    · -- a scope that was left waits for nothing
      rcases stage_cases hm with hsame | ⟨value', hret, -⟩
      · rw [hsame, hst] at hc
        cases hc
      · exact absurd (hst.symm.trans hret.1) (by simp)
  · cases hl with
    | bodyCrashed text =>
        rcases hst with hst | hst
        · simp [ScopedMoment.stage] at hst
        · simp at hst

/-- A lock that was granted is owed until the scope is left. -/
theorem Tracks.owes (h : Tracks autoRefresh ms s) (hg : granted ms = some grant)
    (hst : s.stage ≠ .left) :
    ∃ session activity x, s.life = .owned session activity ∧ session.owesUnlock = true ∧
      session.handle = some x := by
  have hc := h.consistent
  have hs := h.stands
  unfold Stands at hs
  cases hstage : s.stage with
  | entering => exact absurd (hg.symm.trans (h.granted_of_entering hstage)) (by simp)
  | inside =>
      simp only [hstage] at hs
      obtain ⟨x, hrests⟩ := hs
      obtain ⟨session, hl, howes, hx⟩ := hrests.owes (hg ▸ hc)
      exact ⟨session, .resting, x, hl, howes, hx⟩
  | leaving value =>
      simp only [hstage] at hs
      exact hs.owes hc
  | left => exact absurd hstage hst

/-- A scope that is ended by what its session came to drops a
session at rest. -/
theorem Tracks.ended (h : Tracks autoRefresh ms m.before) (hm : m.IsProper) {x : Moment}
    {r : OwnerResult} (hx : m.session = some x) (hr : x.result = some r)
    (hne : ∀ handle, r ≠ .acquired (.ok handle)) :
    ∃ session, x.after = .owned session .resting ∧
      m.after.life = (x.after.step m.now (.drop true)).next := by
  rcases h.stands.session hm (ScopedMoment.meets_of_session hx) with
    ⟨hnone, -⟩ | ⟨-, -, -, session, hrest⟩
  · exact absurd (hr.symm.trans hnone) (by simp)
  refine ⟨session, hrest, ?_⟩
  rcases h.stands.result_of_returned hm (returned_eq hx hr) with ⟨handle, hok, -⟩ | ⟨-, -, -, hleft⟩
  · exact absurd hok (hne handle)
  rcases life_of_turn m.turn_of_step with ⟨hidle, -⟩ | ⟨x', hx', -, hlife | ⟨-, hlife⟩⟩
  · exact absurd (hx.symm.trans hidle) (by simp)
  · -- the session would still have an owner
    obtain rfl := Option.some.inj (hx.symm.trans hx')
    have hdropped : IsDropped m.after.life := by
      simpa [Stands, hleft] using (h.next hm).stands
    rw [show m.after.life = x.after from hlife, hrest] at hdropped
    exact hdropped.elim
  · obtain rfl := Option.some.inj (hx.symm.trans hx')
    exact hlife

/-- What the release came to is what the scope comes to, and
all is given back. -/
theorem Tracks.finished (h : Tracks autoRefresh ms m.before) (hm : m.IsProper) {x : Moment}
    {value : β} {outcome : Outcome β} {o : Outcome Unit} (hx : m.session = some x)
    (hxr : x.result = some (.released o)) (hst : m.stage = .leaving value)
    (hc : Concludes (.leaving value) (.released o) outcome) :
    ((o = .ok () ∧ outcome = .ok value) ∨ ∃ e, o = .error e ∧ outcome = .error e) ∧
      (ms ++ [m]).countP ScopedMoment.beginsUnlock = (granted ms).isSome.toNat ∧
      ((granted ms).isSome = true → m.before.life.isUnlocking = true) ∧
      ∃ r, m.after.life = .gone r := by
  have hmeets := ScopedMoment.meets_of_session hx
  have hmove := step_move x.before x.now x.event
  have hconsistent := h.consistent
  have hintact := h.intact
  rw [← hmeets.before] at hconsistent hintact
  have hreturn : (OwnerResult.released o).isReturn = true :=
    return_of_released hintact (hm.orderly hmeets) hmove hxr
  have hany : x.step.result.any (·.isReturn) = true := by
    rw [show x.step.result = some (.released o) from hxr]
    exact hreturn
  have hdue : x.after.unlocksDue = 0 := (settled_of_return hconsistent hmove hany).1
  obtain ⟨hentering, hleft⟩ : m.before.stage ≠ .entering ∧ m.before.stage ≠ .left := by
    rcases stage_cases hm with hsame | ⟨value', hret, -⟩
    · rw [← hsame, hst]
      exact ⟨by simp, by simp⟩
    · rw [hret.1]
      exact ⟨by simp, by simp⟩
  refine ⟨?_, ?_, ?_, ?_⟩
  · cases hc with
    | released => exact .inl ⟨rfl, rfl⟩
    | releaseFailed => exact .inr ⟨_, rfl, rfl⟩
    | releaseCrashed => cases hreturn
  · -- what was due began, and nothing is due any more
    have hsum := h.account_of_session hm hx
    have hgrant : x.grant? = none := (grant?_of_session hx).symm.trans (h.stands.grant? hentering)
    have hbegins : m.beginsUnlock =
        (x.sent.any (·.operation == .unlock) && !m.before.life.isUnlocking) := by
      rw [← sent_of_session hx]
      rfl
    have hbefore := h.account hleft
    rw [hgrant, hdue] at hsum
    rw [countP_concat, hbegins]
    simp only [Option.isSome_none, Bool.toNat_false] at hsum
    omega
  · intro hsome
    obtain ⟨grant, hg⟩ := Option.isSome_iff_exists.1 hsome
    obtain ⟨session, activity, handle, hl, howes, -⟩ := h.owes hg hleft
    rw [← hmeets.before] at hl ⊢
    refine unlocking_of_return hconsistent hmove hany fun session' hl' => ?_
    obtain ⟨rfl, -⟩ := Lifecycle.owned.inj (hl.symm.trans hl')
    exact howes
  · obtain ⟨session, hrest, hlife⟩ := h.ended hm hx hxr (by simp)
    rw [hrest] at hlife
    have howes : session.owesUnlock = false := by
      rw [hrest] at hdue
      exact Bool.toNat_eq_zero.1 hdue
    exact ⟨_, hlife.trans (gone_of_drop howes m.now)⟩

/-- Where the session is gone, nothing gives a lock back. -/
theorem sends_of_gone {cues : List (Nat × ScopedCue β)} (h : Tracks autoRefresh ms s)
    (hgone : ∃ r, s.life = .gone r) (hp : ∀ m ∈ s.moments cues, m.IsProper) :
    ∀ m ∈ s.moments cues, m.sends .unlock = false := by
  have keep (l : Lifecycle) (now : Nat) (e : Event) (_ : e.isOrderly = true)
      (hl : ∃ r, l = .gone r) : ∃ r, (l.step now e).next = .gone r := by
    obtain ⟨r, rfl⟩ := hl
    exact gone_of_move (step_move _ _ _)
  obtain ⟨hall, -⟩ := keeps_scope (P := fun s => ∃ r, s.life = .gone r)
    (fun m hm hl => keeps_life keep hm hl) hgone hp
  intro m hm
  rw [← Bool.not_eq_true]
  intro hs
  obtain ⟨ms₁, ms₂, hsplit⟩ := List.append_of_mem hm
  obtain ⟨hproper, htracks, -⟩ := h.split hp hsplit
  obtain ⟨x, -, hx, -, -, hun, -⟩ := htracks.unlock hs
  obtain ⟨r, hr⟩ := hall m hm
  have hmeets := ScopedMoment.meets_of_session hx
  obtain ⟨r', hr'⟩ := keep x.before x.now x.event (hproper.orderly hmeets)
    ⟨r, hmeets.before.trans hr⟩
  rw [show x.after = .gone r' from hr'] at hun
  cases hun

/-! ## After a scope that was left -/

/-- A scope that is left while its lock is owed leaves it to a
background release. -/
theorem Tracks.handedOver (h : Tracks autoRefresh ms m.before) (hg : granted ms = some grant)
    {result : Option (ScopedResult β)} (hl : m.Leaves result) :
    m.result = result ∧ m.after.stage = .left ∧
      ∃ b, m.after.life = .background b ∧ b.stage = .ready ∧ b.request = grant.unlockRequest := by
  have hst : m.before.stage ≠ .left := by
    cases hl with
    | bodyCrashed text => simp
    | abandoned hst => exact hst
  have hnext := h.consistent_next
  obtain ⟨session, activity, x, hlife, howes, hx⟩ := h.owes hg hst
  have hafter : m.after.life = .background (session.handOver x) := by
    unfold ScopedMoment.after
    rw [hl.step]
    show (m.before.life.step m.now (.drop true)).next = _
    rw [hlife, background_of_drop howes hx]
  rw [hafter, granted_concat, grant?_of_idle hl.session, Option.or_none, hg] at hnext
  obtain ⟨-, grant', hgrant, hrequest, -⟩ := hnext
  obtain rfl := Option.some.inj hgrant
  refine ⟨?_, ?_, _, hafter, rfl, hrequest⟩
  · unfold ScopedMoment.result
    rw [hl.step]
    rfl
  · unfold ScopedMoment.after
    rw [hl.step]
    rfl

/-- What a moment does to a scope that was left is what it does
to its session. -/
theorem life_of_left (hm : m.IsProper) (hst : m.before.stage = .left) :
    (m.session = none ∧ m.after.life = m.before.life) ∨
      ∃ x, m.session = some x ∧ m.after.life = x.after := by
  have hstage : m.stage = .left := by
    rcases stage_cases hm with hsame | ⟨value, hret, -⟩
    · exact hsame.trans hst
    · exact absurd (hst.symm.trans hret.1) (by simp)
  have ht := m.turn_of_step
  unfold ScopedMoment.after
  generalize m.step = step at ht
  cases ht with
  | idle hx _ => exact .inl ⟨hx, rfl⟩
  | goesOn hx _ => exact .inr ⟨_, hx, rfl⟩
  | enters hx _ _ => exact .inr ⟨_, hx, rfl⟩
  | ends hx hr hc =>
      rw [hstage] at hc
      cases hc
  | leaves hl =>
      cases hl with
      | bodyCrashed text => cases hst
      | abandoned hne => exact absurd hst hne

/-- From a background release on, one invocation begins or is still due. -/
theorem Tracks.accountOfBackground {cues : List (Nat × ScopedCue β)}
    (h : Tracks autoRefresh ms s) (hst : s.stage = .left) (hdue : s.life.unlocksDue = 1)
    (hp : ∀ m ∈ s.moments cues, m.IsProper) :
    (s.moments cues).countP ScopedMoment.beginsUnlock + (s.after cues).life.unlocksDue = 1 := by
  have keep (rest : List (ScopedMoment β)) (m : ScopedMoment β) (hm : m.IsProper)
      (hb : Tracks autoRefresh (ms ++ rest) m.before ∧ m.before.stage = .left ∧
        rest.countP ScopedMoment.beginsUnlock + m.before.life.unlocksDue = 1) :
      Tracks autoRefresh (ms ++ (rest ++ [m])) m.after ∧ m.after.stage = .left ∧
        (rest ++ [m]).countP ScopedMoment.beginsUnlock + m.after.life.unlocksDue = 1 := by
    obtain ⟨htracks, hleft, hsum⟩ := hb
    refine ⟨List.append_assoc .. ▸ htracks.next hm, left_of_left hm hleft, ?_⟩
    have hbegins : m.beginsUnlock =
        (m.sent.any (·.operation == .unlock) && !m.before.life.isUnlocking) := rfl
    rw [countP_concat, hbegins]
    rcases life_of_left hm hleft with ⟨hx, hlife⟩ | ⟨x, hx, hlife⟩
    · rw [sent_of_idle hx, hlife]
      simpa using hsum
    · have hstep := htracks.account_of_session hm hx
      have hgrant : x.grant? = none :=
        (grant?_of_session hx).symm.trans (htracks.stands.grant? (by simp [hleft]))
      rw [hgrant] at hstep
      rw [sent_of_session hx, hlife]
      simp only [Option.isSome_none, Bool.toNat_false] at hstep
      omega
  have start : Tracks autoRefresh (ms ++ []) s ∧ s.stage = .left ∧
      ([] : List (ScopedMoment β)).countP ScopedMoment.beginsUnlock + s.life.unlocksDue = 1 :=
    ⟨by simpa using h, hst, by simpa using hdue⟩
  exact (history_induction (P := fun rest s => Tracks autoRefresh (ms ++ rest) s ∧
    s.stage = .left ∧ rest.countP ScopedMoment.beginsUnlock + s.life.unlocksDue = 1)
    keep start hp).2.2

/-- The life of a scope that was handed over goes on in the background. -/
theorem background_of_proper (hm : m.IsProper) (h : ∃ b, m.before.life = .background b) :
    ∃ b, m.after.life = .background b := by
  refine keeps_life (P := fun l => ∃ b, l = .background b) ?_ hm h
  rintro l now e - ⟨b, rfl⟩
  exact background_of_move (step_move _ _ _)

/-- A session has an owner until its scope is left. -/
theorem Stands.owned (hs : s.Stands) (hst : s.stage ≠ .left) :
    ∃ session activity, s.life = .owned session activity := by
  unfold Stands at hs
  cases hstage : s.stage with
  | entering =>
      simp only [hstage] at hs
      obtain ⟨session, activity, hl, -⟩ := hs
      exact ⟨session, activity, hl⟩
  | inside =>
      simp only [hstage] at hs
      obtain ⟨handle, session, hl, -⟩ := hs
      exact ⟨session, .resting, hl⟩
  | leaving value =>
      simp only [hstage] at hs
      obtain ⟨session, activity, hl, -⟩ := hs
      exact ⟨session, activity, hl⟩
  | left => exact absurd hstage hst

/-- Once a background release goes on, nothing renews the lock. -/
theorem Tracks.quelled (h : Tracks autoRefresh ms m.before) (hm : m.IsProper)
    (hb : ∃ b, m.before.life = .background b) (hwake : m.cue = .event (.wake .holder)) :
    Quelled autoRefresh m.after.life := by
  obtain ⟨b, hb⟩ := hb
  have hleft : m.before.stage = .left := by
    by_contra hst
    obtain ⟨session, activity, hl⟩ := h.stands.owned hst
    simp [hb] at hl
  have hx : m.session = some ⟨m.now, .wake .holder, .background b⟩ := by
    simp [ScopedMoment.session, ScopedMoment.meets, hwake, hb]
  rcases life_of_left hm hleft with ⟨hnone, -⟩ | ⟨x, hx', hlife⟩
  · exact absurd (hx.symm.trans hnone) (by simp)
  · obtain rfl := Option.some.inj (hx.symm.trans hx')
    rw [hlife]
    exact quelled_of_wake (hb ▸ h.consistent) (step_move _ _ _)

/-- No renewal is sent once the renewer was asked to end. -/
theorem sends_of_quelled {cues : List (Nat × ScopedCue β)} (h : Quelled autoRefresh s.life)
    (hp : ∀ m ∈ s.moments cues, m.IsProper) :
    ∀ m ∈ s.moments cues, m.sends .refreshLock = false := by
  obtain ⟨hall, -⟩ := keeps_scope (P := fun s => Quelled autoRefresh s.life)
    (fun m hm hl => keeps_life (P := Quelled autoRefresh)
      (fun _ now e _ hq => hq.next now e) hm hl) h hp
  intro m hm
  cases hx : m.session with
  | none => simp [ScopedMoment.sends, sent_of_idle hx]
  | some x =>
      have hq : Quelled autoRefresh x.before :=
        (ScopedMoment.meets_of_session hx).before ▸ hall m hm
      unfold ScopedMoment.sends
      rw [sent_of_session hx]
      exact hq.sends

/-- What the end of a scope after its body returned comes to: `m` ends it,
`ms₁` was before, and `ms₂` comes after it. -/
structure ReturnsAfter (ms₁ : List (ScopedMoment β)) (m : ScopedMoment β)
    (ms₂ : List (ScopedMoment β)) (value : β) (outcome : Outcome β) : Prop where
  released : ∃ o, m.returned = some (.released o) ∧
    ((o = .ok () ∧ outcome = .ok value) ∨ ∃ e, o = .error e ∧ outcome = .error e)
  begun : (ms₁ ++ [m]).countP ScopedMoment.beginsUnlock = (granted ms₁).isSome.toNat
  completed : (granted ms₁).isSome = true → m.endsUnlock = true
  last : ∀ x ∈ ms₂, x.sends .unlock = false

/-- What a scope that is left before its end leaves behind: `m` leaves it,
with the lock of the grant, and `ms₂` comes after it and leads to `s`. -/
structure HandsOver (m : ScopedMoment β) (ms₂ : List (ScopedMoment β)) (s : Scoped β)
    (grant : Grant) : Prop where
  background : ∃ b, m.after.life = .background b ∧ b.stage = .ready ∧
    b.request = grant.unlockRequest
  unlocks : ∀ x ∈ ms₂, x.sends .unlock = true →
    x.sent = some (.unlock grant.unlockRequest) ∧
      ∀ r, x.before.life.renewer? = some r → r.isAlive = false
  once : ms₂.countP ScopedMoment.beginsUnlock ≤ 1
  /-- Once nothing is left to do, the lock has been given back. -/
  done : ∀ now, IsQuiet now s.life → ms₂.countP ScopedMoment.beginsUnlock = 1
  /-- The renewer is asked to end when the release first goes on. -/
  stopped : ∀ ms₃ x ms₄, ms₂ = ms₃ ++ x :: ms₄ → x.cue = .event (.wake .holder) →
    ∀ y ∈ ms₄, y.sends .refreshLock = false

/-! ## The whole -/

variable {policy : RetryPolicy} {a : Acquisition} {now : Nat} {es : List (Nat × ScopedEvent β)}
  {ms₁ ms₂ : List (ScopedMoment β)}

/-- A history, cut at one of its moments. -/
theorem history_split (ho : ∀ p ∈ es, p.2.isOrderly = true)
    (hsplit : history policy autoRefresh a now es = ms₁ ++ m :: ms₂) :
    m.IsProper ∧ Tracks autoRefresh ms₁ m.before ∧
      ∃ rest, ms₂ = m.after.moments rest ∧
        reached policy autoRefresh a now es = m.after.after rest ∧
        ∀ x ∈ m.after.moments rest, x.IsProper := by
  obtain ⟨hm, htracks, hrest⟩ :=
    (tracks_fresh policy autoRefresh).split (proper_history ho) hsplit
  exact ⟨hm, by simpa using htracks, hrest⟩

/-- What was granted before a scope is past its entry is all
that is granted. -/
theorem granted_of_split (ho : ∀ p ∈ es, p.2.isOrderly = true)
    (hsplit : history policy autoRefresh a now es = ms₁ ++ m :: ms₂)
    (hst : m.after.stage ≠ .entering) :
    granted (history policy autoRefresh a now es) = granted (ms₁ ++ [m]) := by
  obtain ⟨hm, htracks, rest, rfl, -, hrest⟩ := history_split ho hsplit
  have hnone := granted_of_past (htracks.next hm).stands hst hrest
  rw [hsplit, List.append_cons, granted_append, hnone, Option.or_none]

/-- Everything that is sent to give a lock back gives back what was granted. -/
theorem unlock_of_history (ho : ∀ p ∈ es, p.2.isOrderly = true)
    (hm : m ∈ history policy autoRefresh a now es) (hs : m.sends .unlock = true) :
    ∃ grant, granted (history policy autoRefresh a now es) = some grant ∧
      m.sent = some (.unlock grant.unlockRequest) := by
  obtain ⟨ms₁, ms₂, hsplit⟩ := List.append_of_mem hm
  obtain ⟨-, htracks, -⟩ := history_split ho hsplit
  obtain ⟨x, grant, -, hg, hsent, -⟩ := htracks.unlock hs
  exact ⟨grant, by rw [hsplit, granted_append, hg, Option.some_or], hsent⟩

/-- The body begins with a handle that is locked just when the
lock was granted. -/
theorem locked_of_entered (ho : ∀ p ∈ es, p.2.isOrderly = true)
    (hm : m ∈ history policy autoRefresh a now es) {handle : LockHandle}
    (hentered : m.result = some (.entered handle)) :
    handle.locked = (granted (history policy autoRefresh a now es)).isSome := by
  obtain ⟨ms₁, ms₂, hsplit⟩ := List.append_of_mem hm
  obtain ⟨hproper, htracks, -⟩ := history_split ho hsplit
  have hreturned := (entered_iff htracks.stands hproper handle).1 hentered
  obtain ⟨hst, x, hx, hxr⟩ := htracks.stands.acquired hproper hreturned
  rcases htracks.stands.result_of_returned hproper hreturned with ⟨-, -, -, hin⟩ | ⟨_, -, hfin, -⟩
  · rw [granted_of_split ho hsplit (by simp [hin]), granted_concat,
      htracks.granted_of_entering hst, grant?_of_session hx, Option.none_or]
    exact locked_of_acquired (step_move x.before x.now x.event) hxr
  · exact absurd (hentered.symm.trans hfin) (by simp)

/-- An acquisition that fails is the end of its scope, which is
granted nothing. -/
theorem finished_of_refused (ho : ∀ p ∈ es, p.2.isOrderly = true)
    (hm : m ∈ history policy autoRefresh a now es) {e : ClientError}
    (hrefused : m.returned = some (.acquired (.error e))) :
    m.result = some (.finished (.error e)) ∧
      granted (history policy autoRefresh a now es) = none ∧
      ∀ x ∈ history policy autoRefresh a now es, x.enters = false := by
  obtain ⟨ms₁, ms₂, hsplit⟩ := List.append_of_mem hm
  obtain ⟨hproper, htracks, rest, hrest, -, hp⟩ := history_split ho hsplit
  obtain ⟨hst, x, hx, hxr⟩ := htracks.stands.acquired hproper hrefused
  obtain ⟨hfin, hleft⟩ : m.result = some (.finished (.error e)) ∧ m.after.stage = .left := by
    rcases htracks.stands.result_of_returned hproper hrefused with
      ⟨handle, hok, -⟩ | ⟨outcome, hc, hfin, hleft⟩
    · simp at hok
    · generalize m.stage = stage at hc
      cases hc
      exact ⟨hfin, hleft⟩
  refine ⟨hfin, ?_, ?_⟩
  · rw [granted_of_split ho hsplit (by simp [hleft]), granted_concat,
      htracks.granted_of_entering hst, grant?_of_session hx, Option.none_or]
    exact grant?_of_failed (step_move x.before x.now x.event) hxr
  · -- the body had not begun before, and a scope that was left does not begin it
    have hbefore := List.countP_eq_zero.1 (htracks.entering hst)
    obtain ⟨hafter, -⟩ := keeps_scope (P := fun s => s.stage = .left)
      (fun _ hm hl => left_of_left hm hl) hleft hp
    intro y hy
    rw [hsplit] at hy
    rcases List.mem_append.1 hy with hy | hy
    · simpa using hbefore y hy
    rcases List.mem_cons.1 hy with rfl | hy
    · simp [ScopedMoment.enters, hfin]
    · rw [hrest] at hy
      rw [← Bool.not_eq_true]
      intro henters
      exact absurd ((hafter y hy).symm.trans (entering_of_enters (hp y hy) henters)) (by simp)

/-- After its body returned a scope gives its lock back, or is left. -/
theorem leaving_of_split (ho : ∀ p ∈ es, p.2.isOrderly = true)
    (hsplit : history policy autoRefresh a now es = ms₁ ++ m :: ms₂) {value : β}
    (hbody : ∃ x ∈ ms₁ ++ [m], x.ReturnsBody value) :
    m.stage = .leaving value ∨ m.before.stage = .left := by
  obtain ⟨hproper, -⟩ := history_split ho hsplit
  obtain ⟨x, hx, hret⟩ := hbody
  rcases List.mem_append.1 hx with hx | hx
  · obtain ⟨ms₃, ms₄, rfl⟩ := List.append_of_mem hx
    rw [List.append_assoc, List.cons_append] at hsplit
    obtain ⟨hxproper, -, rest, hrest, -, hp⟩ := history_split ho hsplit
    have hafter : x.after.stage = .leaving value ∨ x.after.stage = .left := by
      rcases stage_of_step hxproper with ⟨hleft, -⟩ | ⟨hst, -⟩ | ⟨hafter, -⟩
      · exact .inr hleft
      · exact absurd (hret.1.symm.trans hst) (by simp)
      · exact .inl (hafter.trans (stage_of_returns hret))
    rcases leaving_of_returns hafter hp m (by simp [← hrest]) with hst | hst
    · rcases stage_cases hproper with hsame | ⟨value', hret', -⟩
      · exact .inl (hsame.trans hst)
      · exact absurd (hst.symm.trans hret'.1) (by simp)
    · exact .inr hst
  · obtain rfl := List.mem_singleton.1 hx
    exact .inl (stage_of_returns hret)

/-- What ends a scope whose body returned. -/
theorem returnsAfter_of_split (ho : ∀ p ∈ es, p.2.isOrderly = true)
    (hsplit : history policy autoRefresh a now es = ms₁ ++ m :: ms₂) {value : β}
    {outcome : Outcome β} (hbody : ∃ x ∈ ms₁ ++ [m], x.ReturnsBody value)
    (hfin : m.result = some (.finished outcome)) : ReturnsAfter ms₁ m ms₂ value outcome := by
  obtain ⟨hproper, htracks, rest, rfl, -, hp⟩ := history_split ho hsplit
  have hst := leaving_of_split ho hsplit hbody
  obtain ⟨x, o, hx, hxr, hleaving, hc⟩ := released_of_finished hproper hst hfin
  obtain ⟨hout, hbegun, hcompleted, hgone⟩ := htracks.finished hproper hx hxr hleaving hc
  exact {
    released := ⟨o, returned_eq hx hxr, hout⟩
    begun := hbegun
    completed := by
      intro hsome
      obtain ⟨r, hr⟩ := hgone
      rw [ScopedMoment.endsUnlock, hcompleted hsome, hr]
      rfl
    last := sends_of_gone (htracks.next hproper) hgone hp }

/-- What is left behind by a scope that is left before its end. -/
theorem handsOver_of_split (ho : ∀ p ∈ es, p.2.isOrderly = true)
    (hsplit : history policy autoRefresh a now es = ms₁ ++ m :: ms₂)
    (hg : granted ms₁ = some grant) {result : Option (ScopedResult β)} (hl : m.Leaves result) :
    HandsOver m ms₂ (reached policy autoRefresh a now es) grant := by
  obtain ⟨hproper, htracks, rest, rfl, hreached, hp⟩ := history_split ho hsplit
  obtain ⟨-, hleft, b, hlife, hready, hrequest⟩ := htracks.handedOver hg hl
  have hnext := htracks.next hproper
  have hdue : m.after.life.unlocksDue = 1 := by
    simp [hlife, unlocksDue, hready]
  have hcount := hnext.accountOfBackground hleft hdue hp
  obtain ⟨hback, hlast⟩ := keeps_scope (P := fun s => ∃ b, s.life = .background b)
    (fun _ hm hb => background_of_proper hm hb) ⟨b, hlife⟩ hp
  have hnextg : granted (ms₁ ++ [m]) = some grant := by
    rw [granted_append, hg, Option.some_or]
  exact {
    background := ⟨b, hlife, hready, hrequest⟩
    unlocks := by
      intro x hx hs
      obtain ⟨ms₃, ms₄, hcut⟩ := List.append_of_mem hx
      obtain ⟨-, htracks', -⟩ := hnext.split hp hcut
      obtain ⟨y, grant', -, hg', hsent, -, hover, -⟩ := htracks'.unlock hs
      rw [granted_append, hnextg, Option.some_or, Option.some.injEq] at hg'
      exact ⟨hg' ▸ hsent, fun r hr => htracks'.consistent.over hover hr⟩
    once := by omega
    done := by
      intro later hq
      have hdropped : IsDropped (m.after.after rest).life := by
        obtain ⟨b', hb'⟩ := hlast
        rw [hb']
        trivial
      have hzero := unlocksDue_of_quiet (hnext.run hp).consistent hdropped (hreached ▸ hq)
      omega
    stopped := by
      intro ms₃ x ms₄ hcut hwake
      obtain ⟨hproper', htracks', rest', rfl, -, hp'⟩ := hnext.split hp hcut
      exact sends_of_quelled (htracks'.quelled hproper' (hback x (by simp [hcut])) hwake) hp' }

/-- As long as no call breaks down: the body of a scope begins just when
the acquisition succeeds, once, with a handle that is locked if the lock
was granted; a scope whose acquisition fails comes to that error and
gives nothing back; nothing is given back while the body runs; a scope
whose body returned ends with its release, and one that is left earlier
hands its lock over. -/
theorem scope_gives_back (policy : RetryPolicy) (autoRefresh : Bool) (a : Acquisition) (now : Nat)
    (es : List (Nat × ScopedEvent β)) (ho : ∀ p ∈ es, p.2.isOrderly = true) :
    let ms := history policy autoRefresh a now es
    (∀ m ∈ ms, ∀ handle,
      m.result = some (.entered handle) ↔ m.returned = some (.acquired (.ok handle))) ∧
    ms.countP ScopedMoment.enters ≤ 1 ∧
    (∀ m ∈ ms, ∀ handle, m.result = some (.entered handle) →
      handle.locked = (granted ms).isSome) ∧
    (∀ m ∈ ms, ∀ e, m.returned = some (.acquired (.error e)) →
      m.result = some (.finished (.error e)) ∧
        ∀ x ∈ ms, x.enters = false ∧ x.sends .unlock = false) ∧
    (∀ m ∈ ms, m.sends .unlock = true →
      ∃ grant, granted ms = some grant ∧ m.sent = some (.unlock grant.unlockRequest)) ∧
    (∀ m ∈ ms, m.before.stage = .inside → (∀ value, m.cue ≠ .event (.bodyReturned value)) →
      m.sends .unlock = false) ∧
    ∀ ms₁ m ms₂, ms = ms₁ ++ m :: ms₂ →
      (∀ value outcome, (∃ x ∈ ms₁ ++ [m], x.ReturnsBody value) →
        m.result = some (.finished outcome) → ReturnsAfter ms₁ m ms₂ value outcome) ∧
      ∀ grant result, granted ms₁ = some grant → m.Leaves result →
        m.result = result ∧ HandsOver m ms₂ (reached policy autoRefresh a now es) grant := by
  intro ms
  refine ⟨?_, ?_, ?_, ?_, ?_, ?_, ?_⟩
  · intro m hm handle
    obtain ⟨ms₁, ms₂, hsplit⟩ := List.append_of_mem hm
    obtain ⟨hproper, htracks, -⟩ := history_split ho hsplit
    exact entered_iff htracks.stands hproper handle
  · exact ((tracks_fresh policy autoRefresh).run (proper_history ho)).entered
  · exact fun m hm handle hentered => locked_of_entered ho hm hentered
  · intro m hm e hrefused
    obtain ⟨hfin, hnone, hno⟩ := finished_of_refused ho hm hrefused
    refine ⟨hfin, fun x hx => ⟨hno x hx, ?_⟩⟩
    rw [← Bool.not_eq_true]
    intro hs
    obtain ⟨grant, hg, -⟩ := unlock_of_history ho hx hs
    exact absurd (hnone.symm.trans hg) (by simp)
  · exact fun m hm hs => unlock_of_history ho hm hs
  · intro m hm hst hbody
    obtain ⟨ms₁, ms₂, hsplit⟩ := List.append_of_mem hm
    obtain ⟨hproper, htracks, -⟩ := history_split ho hsplit
    exact htracks.sends_inside hproper hst hbody
  · intro ms₁ m ms₂ hsplit
    refine ⟨fun value outcome hbody hfin => returnsAfter_of_split ho hsplit hbody hfin, ?_⟩
    intro grant result hg hl
    obtain ⟨-, htracks, -⟩ := history_split ho hsplit
    exact ⟨(htracks.handedOver hg hl).1, handsOver_of_split ho hsplit hg hl⟩

/-- An acquisition with a lease. -/
def leased : Acquisition := ⟨false, "job-42", { lease := 20 }⟩

/-- The body of a scope returns while the renewer of its lock sleeps; its
release then waits for the answer. -/
def leavingEvents : List (Nat × ScopedEvent Nat) :=
  [(0, .answer (.acquired (.response (.granted "job-42" "key-1")))), (0, .wake .renewer),
    (10, .bodyReturned 7), (10, .wake .renewer), (10, .wake .holder)]

def returningEvents : List (Nat × ScopedEvent Nat) :=
  leavingEvents ++ [(12, .answer (.unlocked (.response { unlocked := true })))]

def abandonedEvents : List (Nat × ScopedEvent Nat) :=
  leavingEvents ++ [(11, .abandon), (11, .wake .holder),
    (12, .answer (.unlocked (.response { unlocked := true })))]

/-- The scope ends with the value of its body; or it is abandoned, and its
release begins anew. -/
theorem scope_gives_back_when_left :
    (∃ m, history {} true leased 0 returningEvents = history {} true leased 0 leavingEvents ++ [m] ∧
      ReturnsAfter (history {} true leased 0 leavingEvents) m [] 7 (.ok 7)) ∧
    ∃ m ms₂, history {} true leased 0 abandonedEvents =
        history {} true leased 0 leavingEvents ++ m :: ms₂ ∧
      (history {} true leased 0 leavingEvents).countP ScopedMoment.beginsUnlock = 1 ∧
      HandsOver m ms₂ (reached {} true leased 0 abandonedEvents) ⟨"job-42", "key-1", 20⟩ ∧
      ms₂.countP ScopedMoment.beginsUnlock = 1 := by
  constructor
  · refine ⟨_, rfl, ?_⟩
    obtain ⟨-, -, -, -, -, -, hsplit⟩ :=
      scope_gives_back {} true leased 0 returningEvents (by decide)
    obtain ⟨hreturned, -⟩ := hsplit (history {} true leased 0 leavingEvents) _ [] rfl
    exact hreturned 7 (.ok 7) ⟨_, List.mem_of_getElem? (i := 3) rfl, rfl, rfl⟩ rfl
  · refine ⟨_, _, rfl, by decide, ?_, by decide⟩
    obtain ⟨-, -, -, -, -, -, hsplit⟩ :=
      scope_gives_back {} true leased 0 abandonedEvents (by decide)
    obtain ⟨-, hleft⟩ := hsplit (history {} true leased 0 leavingEvents) _ _ rfl
    exact (hleft ⟨"job-42", "key-1", 20⟩ none (by decide) (.abandoned (by decide))).2

end DistLock.Scoped
