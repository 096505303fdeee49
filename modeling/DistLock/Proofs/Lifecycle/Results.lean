import DistLock.Proofs.Lifecycle.Invariant

/-!
# What an owner learns

* Whoever is told that an acquisition succeeded finds the handle in its
  session (`handle_of_acquired`);
* no release fails for the state of the session, and an acquisition does so
  only when it is refused at once (`released_ne_invalidState`,
  `acquired_ne_invalidState`).
-/

namespace DistLock

/-- A release returns, with a value or with an error. -/
def OwnerResult.isReturn : OwnerResult → Bool
  | .released (.ok _) | .released (.error _) => true
  | _ => false

/-- A call that was answered makes the release return, and not for the state
of the session. -/
theorem Session.concludeRelease_result {s : Session} {name : String}
    {renewal : Option ClientError} {reply : Reply UnlockResponse} {o : Outcome Unit}
    (hreply : ∀ text, reply ≠ .crash text)
    (h : (s.concludeRelease name renewal reply.outcome).result = some o) :
    (OwnerResult.released o).isReturn = true ∧ ∀ text, o ≠ .error (.invalidState text) := by
  cases ho : reply.outcome with
  | ok r =>
      cases hu : r.unlocked with
      | true =>
          simp only [concludeRelease, ho, hu, if_true, Option.some.injEq] at h
          subst h
          cases renewal <;> exact ⟨rfl, by simp⟩
      | false =>
          simp only [concludeRelease, ho, hu] at h
          obtain rfl := Option.some.inj h
          exact ⟨rfl, by simp⟩
  | error e =>
      have he : ∀ text, e ≠ .invalidState text := by
        rintro text rfl
        exact Reply.outcome_ne_invalidState reply text ho
      simp only [concludeRelease, ho, Option.some.injEq] at h
      subst h
      refine ⟨rfl, fun text => ?_⟩
      rw [ne_eq, Outcome.error.injEq]
      split
      · simp
      · exact he text
  | crash text => exact absurd (Reply.eq_crash_of_outcome ho) (hreply text)

/-- A release returns to its owner. -/
def Moment.returnsRelease (m : Moment) : Bool := m.result.any (·.isReturn)

namespace Lifecycle

variable {now : Nat} {autoRefresh : Bool} {g : Option Grant} {l : Lifecycle} {e : Event}
  {step : Step Lifecycle OwnerResult}

theorem handle_of_acquired {handle : LockHandle} (hm : Move now l e step)
    (hr : step.result = some (.acquired (.ok handle))) : step.next.handle? = some handle := by
  cases hm with
  | granted _ _ =>
      simp only [Option.some.injEq, OwnerResult.acquired.injEq, Outcome.ok.injEq] at hr
      exact hr ▸ Session.grant_handle
  | notGranted _ _ _ hout =>
      simp only [Option.some.injEq, OwnerResult.acquired.injEq] at hr
      subst hr
      rcases hout with hout | ⟨e, -, hout⟩
      · exact congrArg some (Outcome.ok.inj hout).symm
      · simp at hout
  | _ => exact absurd hr (by simp [Step.stay, Step.silent])

theorem released_ne_invalidState (h : Consistent autoRefresh g l) (hm : Move now l e step)
    (text : String) : step.result ≠ some (.released (.error (.invalidState text))) := by
  cases hm with
  | released _ hreply hres =>
      intro hr
      simp only [Option.some.injEq, OwnerResult.released.injEq] at hr
      exact (Session.concludeRelease_result hreply hres).2 text hr
  | releaseLost ha hx => exact absurd hx (h.handle_ne_none ha)
  | _ => simp [Step.stay, Step.silent]

theorem acquired_ne_invalidState (hm : Move now l e step) (he : ∀ a, e ≠ .acquire a)
    (text : String) : step.result ≠ some (.acquired (.error (.invalidState text))) := by
  cases hm with
  | acquireRefused _ => exact absurd rfl (he _)
  | notGranted _ _ _ hout =>
      intro hr
      simp only [Option.some.injEq, OwnerResult.acquired.injEq] at hr
      subst hr
      rcases hout with hout | ⟨e, hreply, hout⟩
      · simp at hout
      · obtain rfl := Outcome.error.inj hout
        exact Reply.outcome_ne_invalidState _ _ hreply
  | _ => simp [Step.stay, Step.silent]

end Lifecycle

end DistLock
