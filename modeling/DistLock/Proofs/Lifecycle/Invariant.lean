import DistLock.Proofs.Lifecycle.Move
import DistLock.Proofs.Lifecycle.Run

/-!
# What holds between two events

The state of a session, its handle and its renewer belong together, and what
they have to say follows from what the service granted so far (`granted`):

* `Session.Fits` says what a session shows in each of its states;
* `Activity.Fits` and `BackgroundRelease.Fits` say what holds beyond that
  while an operation is under way, and after the session was dropped;
* `Lifecycle.Consistent` joins them, is kept by every move
  (`consistent_move`) and so holds wherever a run leads (`consistent_run`).
-/

namespace DistLock

/-- A lock that the service granted. -/
structure Grant where
  name : String
  key : String
  /-- The lease in seconds. -/
  lease : UInt32
  deriving DecidableEq, Repr

/-- What a moment grants: an answer with a key, for which the owner waits. -/
def Moment.grant? (m : Moment) : Option Grant :=
  match m.before, m.event with
  | .owned _ (.acquiring a run), .answer (.acquired reply) =>
    if run.isWaiting then reply.key?.map fun key => ⟨a.name, key, a.options.lease⟩ else none
  | _, _ => none

/-- What was granted in the course of a run. -/
def granted (ms : List Moment) : Option Grant := ms.findSome? Moment.grant?

/-- The request that gives back what was granted. -/
def Grant.unlockRequest (g : Grant) : UnlockRequest := ⟨g.name, g.key⟩

/-- A run in which a lock with a lease is granted. -/
def grantedRun : List (Nat × Event) :=
  [(0, .acquire ⟨false, "job-42", { lease := 20 }⟩),
    (0, .answer (.acquired (.response (.granted "job-42" "key-1"))))]

/-! ## What a session shows -/

/-- The handle is locked, and shows what was granted. -/
structure LockHandle.Shows (h : LockHandle) (g : Grant) : Prop where
  name : h.name = g.name
  locked : h.locked = true
  key : h.key? = some g.key
  acquired : h.acquiredAt.isSome = true

/-- The handle is not locked, and its key cannot be read. -/
structure LockHandle.Hides (h : LockHandle) : Prop where
  locked : h.locked = false
  key : h.key? = none

/-- What a session shows, given what was granted to it. -/
def Session.Fits (s : Session) (g : Option Grant) : Prop :=
  match s.state with
  | .idle | .acquiring => s.handle = none ∧ s.renewer = none ∧ g = none
  | .held => ∃ grant h, g = some grant ∧ s.handle = some h ∧ h.Shows grant ∧
      (s.renewer.isSome = true ↔ 0 < grant.lease ∧ s.autoRefresh = true)
  | .notHeld => ∃ h, s.handle = some h ∧ h.Hides ∧ s.renewer = none ∧ g = none
  | .releasing => ∃ grant h, g = some grant ∧ s.handle = some h ∧ h.Shows grant
  | .released => ∃ grant h, g = some grant ∧ s.handle = some h ∧ h.Hides ∧ s.renewer = none

/-- Whatever the renewer is, it was asked to end. -/
def RenewalCancelled (r : Option Renewer) : Prop := ∀ x, r = some x → x.cancelled = true

/-- What holds of a session while something is under way with it. -/
def Activity.Fits (activity : Activity) (s : Session) : Prop :=
  match activity with
  | .resting => True
  | .acquiring a run => s.state = .acquiring ∧ a.name ≠ "" ∧ run.request = a.request
  | .stopping => s.state = .releasing
  | .unlocking _ run => s.state = .releasing ∧ s.renewer = none ∧
      ∃ h, s.handle = some h ∧ run.request = ⟨h.name, h.secret⟩

/-- What holds of the release of a dropped session. -/
def BackgroundRelease.Fits (b : BackgroundRelease) (g : Grant) : Prop :=
  b.request = g.unlockRequest ∧
  match b.stage with
  | .ready => True
  | .stopping => RenewalCancelled b.renewer
  | .unlocking run => b.renewer = none ∧ run.request = g.unlockRequest
  | .done => b.renewer = none

namespace Lifecycle

/-- What holds of the life of a session between two events. -/
def Consistent (autoRefresh : Bool) (g : Option Grant) (l : Lifecycle) : Prop :=
  (∀ r, l.renewer? = some r → r.joined = true → r.isAlive = false) ∧
  match l with
  | .owned s activity => s.Fits g ∧ activity.Fits s ∧ s.autoRefresh = autoRefresh ∧
      (s.state = .releasing → RenewalCancelled s.renewer)
  | .background b => ∃ grant, g = some grant ∧ b.Fits grant
  | .gone r => RenewalCancelled r

end Lifecycle

/-! ## Handles -/

theorem LockHandle.held_shows (a : Acquisition) (key : String) (now : Nat) :
    (LockHandle.held a.name key now).Shows ⟨a.name, key, a.options.lease⟩ :=
  ⟨rfl, rfl, rfl, rfl⟩

theorem LockHandle.notHeld_hides (name : String) : (LockHandle.notHeld name).Hides := ⟨rfl, rfl⟩

theorem LockHandle.markReleased_hides (h : LockHandle) : h.markReleased.Hides := ⟨rfl, rfl⟩

/-- The key that is shown is the one that is sent when the
lock is given back. -/
theorem LockHandle.Shows.unlockRequest {h : LockHandle} {g : Grant} (hs : h.Shows g) :
    (⟨h.name, h.secret⟩ : UnlockRequest) = g.unlockRequest := by
  have hk := hs.key
  simp only [LockHandle.key?, hs.locked, if_true, Option.some.injEq] at hk
  rw [hs.name, hk]
  rfl

/-! ## Granting -/

namespace Session

variable {s : Session} {a : Acquisition} {key : String} {now : Nat}

@[simp] theorem grant_state : (s.grant a key now).1.state = .held := by
  simp only [grant]
  split <;> rfl

@[simp] theorem grant_handle : (s.grant a key now).1.handle = some (.held a.name key now) := by
  simp only [grant]
  split <;> rfl

@[simp] theorem grant_autoRefresh : (s.grant a key now).1.autoRefresh = s.autoRefresh := by
  simp only [grant]
  split <;> rfl

/-- A lock with a lease gets a renewer that has not begun; any other
keeps what there is. -/
theorem grant_renewer : (s.grant a key now).1.renewer =
    if 0 < a.options.lease ∧ s.autoRefresh = true
    then some { policy := s.policy, name := a.name, key := key, lease := a.options.lease }
    else s.renewer := by
  simp only [grant, Bool.and_eq_true, decide_eq_true_eq]
  split <;> rfl

end Session

theorem granted_append (ms ms' : List Moment) :
    granted (ms ++ ms') = (granted ms).or (granted ms') := List.findSome?_append

theorem granted_concat (ms : List Moment) (m : Moment) :
    granted (ms ++ [m]) = (granted ms).or m.grant? := by
  rw [granted_append]
  cases h : m.grant? <;> simp [granted, h]

namespace Lifecycle

variable {now : Nat} {autoRefresh : Bool} {g : Option Grant} {l : Lifecycle} {e : Event}
  {r : Renewer}

/-- A lock is granted by an answer with a key, to an owner
that waits for it. -/
theorem grant?_eq_some {grant : Grant} (h : Moment.grant? ⟨now, e, l⟩ = some grant) :
    ∃ s a run reply key, l = .owned s (.acquiring a run) ∧ e = .answer (.acquired reply) ∧
      run.isWaiting = true ∧ reply.key? = some key ∧ grant = ⟨a.name, key, a.options.lease⟩ := by
  unfold Moment.grant? at h
  split at h
  · rename_i s a run reply hl he
    split at h
    · rename_i hw
      obtain ⟨key, hkey, rfl⟩ := Option.map_eq_some_iff.1 h
      exact ⟨s, a, run, reply, key, hl, he, hw, hkey, rfl⟩
    · simp at h
  · simp at h

/-- An event that does not fit grants nothing. -/
theorem grant?_of_ignores (h : Ignores now l e) : Moment.grant? ⟨now, e, l⟩ = none := by
  unfold Moment.grant?
  split
  · rename_i s a run reply hl he
    obtain rfl : l = .owned s (.acquiring a run) := hl
    obtain rfl : e = .answer (.acquired reply) := he
    have hw : run.isWaiting = false := h
    simp [hw]
  · rfl

/-- Only an answer to a request for a lock grants one. -/
theorem grant?_of_event (h : ∀ reply, e ≠ .answer (.acquired reply)) :
    Moment.grant? ⟨now, e, l⟩ = none := by
  unfold Moment.grant?
  split
  · rename_i reply _ he
    exact absurd he (h reply)
  · rfl

/-- An answer without a key grants nothing. -/
theorem grant?_of_key {reply : Reply LockResponse} (h : reply.key? = none) :
    Moment.grant? ⟨now, .answer (.acquired reply), l⟩ = none := by
  unfold Moment.grant?
  split
  · rename_i reply' _ he
    simp only [Event.answer.injEq, Answer.acquired.injEq] at he
    simp [← he, h]
  · rfl

@[simp] theorem setRenewer_renewer? : (l.setRenewer r).renewer? = some r := by
  cases l <;> rfl

/-! ## Asking a renewer to end -/

theorem renewalCancelled_map (x : Option Renewer) : RenewalCancelled (x.map (·.cancel)) := by
  intro r hr
  obtain ⟨r₀, -, rfl⟩ := Option.map_eq_some_iff.1 hr
  rfl

/-- Asking a renewer to end does not revive one whose end was taken over. -/
theorem over_of_joined_map {x : Option Renewer}
    (h : ∀ r, x = some r → r.joined = true → r.isAlive = false) :
    ∀ r, x.map (·.cancel) = some r → r.joined = true → r.isAlive = false := by
  intro r hr
  obtain ⟨r₀, hr₀, rfl⟩ := Option.map_eq_some_iff.1 hr
  exact h r₀ hr₀

/-! ## Every move keeps the invariant -/

/-- What a renewer does on its own leaves all else as it is. -/
theorem Consistent.setRenewer (h : Consistent autoRefresh g l) (r' : Renewer)
    (hr : l.renewer? = some r)
    (hc : r.cancelled = true → r'.cancelled = true)
    (hover : r'.joined = true → r'.isAlive = false) :
    Consistent autoRefresh g (l.setRenewer r') := by
  refine ⟨by simpa using hover, ?_⟩
  have hcancelled : ∀ x, some r' = some x → RenewalCancelled (some r) → x.cancelled = true := by
    intro x hx hold
    rw [Option.some.injEq] at hx
    exact hx ▸ hc (hold r rfl)
  cases l with
  | owned s activity =>
      obtain ⟨-, hs, ha, hauto, hrel⟩ := h
      replace hr : s.renewer = some r := hr
      refine ⟨?_, ?_, hauto, ?_⟩
      · -- a session with a renewer is held or being released
        cases hst : s.state <;> simp only [Session.Fits, hst, hr] at hs ⊢
        all_goals simp_all
      · cases activity with
        | unlocking renewal run => exact absurd (hr.symm.trans ha.2.1) (by simp)
        | _ => exact ha
      · intro hst x hx
        exact hcancelled x hx (hr ▸ hrel hst)
  | background b =>
      obtain ⟨-, grant, hg, hreq, hb⟩ := h
      replace hr : b.renewer = some r := hr
      refine ⟨grant, hg, hreq, ?_⟩
      cases hst : b.stage <;> simp only [hst, hr] at hb ⊢
      · intro x hx
        exact hcancelled x hx hb
      · simp at hb
      · simp at hb
  | gone x =>
      obtain ⟨-, hx⟩ := h
      replace hr : x = some r := hr
      intro y hy
      exact hcancelled y hy (hr ▸ hx)

section Owner

variable {s t : Session} {activity activity' : Activity}

theorem Consistent.changeActivity (h : Consistent autoRefresh g (.owned s activity))
    (ha : activity'.Fits s) : Consistent autoRefresh g (.owned s activity') := by
  obtain ⟨hj, hs, -, hauto, hrel⟩ := h
  exact ⟨hj, hs, ha, hauto, hrel⟩

theorem Consistent.fits (h : Consistent autoRefresh g (.owned s activity)) : s.Fits g := h.2.1

theorem Consistent.activity_fits (h : Consistent autoRefresh g (.owned s activity)) :
    activity.Fits s := h.2.2.1

/-- What is owed can be read off the state of a session. -/
theorem Consistent.owesUnlock_eq (h : Consistent autoRefresh g (.owned s activity)) :
    s.owesUnlock = (s.state == .held || s.state == .releasing) := by
  have hs := h.fits
  cases hst : s.state <;> simp only [Session.Fits, hst] at hs
  case held =>
    obtain ⟨grant, x, -, hx, hshow, -⟩ := hs
    simp [Session.owesUnlock, Session.isLocked, hst, hx, hshow.locked]
  case releasing =>
    obtain ⟨grant, x, -, hx, hshow⟩ := hs
    simp [Session.owesUnlock, Session.isLocked, hst, hx, hshow.locked]
  all_goals simp [Session.owesUnlock, hst]

/-- A lock that is owed was granted, and the handle shows it. -/
theorem Consistent.shows_of_owes (h : Consistent autoRefresh g (.owned s activity))
    (ho : s.owesUnlock = true) :
    (s.state = .held ∨ s.state = .releasing) ∧
      ∃ grant x, g = some grant ∧ s.handle = some x ∧ x.Shows grant := by
  have hs := h.fits
  simp only [Session.owesUnlock, Bool.and_eq_true, Bool.or_eq_true, beq_iff_eq] at ho
  obtain ⟨hst | hst, -⟩ := ho
  · simp only [Session.Fits, hst] at hs
    obtain ⟨grant, x, hg, hx, hshow, -⟩ := hs
    exact ⟨.inl hst, grant, x, hg, hx, hshow⟩
  · simp only [Session.Fits, hst] at hs
    exact ⟨.inr hst, hs⟩

/-- An owner that looks for the end of its renewer has begun to release, and
has asked it to end. -/
theorem Consistent.awaitsEnd (h : Consistent autoRefresh g (.owned s activity))
    (ha : AwaitsEnd s activity e t) : Consistent autoRefresh g (.owned t .stopping) := by
  cases ha with
  | again => exact h
  | first ho =>
      obtain ⟨-, grant, x, hg, hx, hshow⟩ := h.shows_of_owes ho
      obtain ⟨hj, -, -, hauto, -⟩ := h
      exact ⟨over_of_joined_map hj, ⟨grant, x, hg, hx, hshow⟩, rfl, hauto,
        fun _ => renewalCancelled_map _⟩

/-- An owner that looks for the end of its renewer can tell which
lock it gives back. -/
theorem Consistent.handle_ne_none (h : Consistent autoRefresh g (.owned s activity))
    (ha : AwaitsEnd s activity e t) : t.handle ≠ none := by
  have ht := h.awaitsEnd ha
  have hs := ht.fits
  simp only [Session.Fits, show t.state = .releasing from ht.activity_fits] at hs
  obtain ⟨-, x, -, hx, -⟩ := hs
  rw [hx]
  simp

/-- The renewer has ended, and the call that gives the lock back begins. -/
theorem Consistent.beginUnlock (h : Consistent autoRefresh g (.owned t .stopping))
    {x : LockHandle} (hx : t.handle = some x) (renewal : Option ClientError) :
    Consistent autoRefresh g (.owned t.forgetRenewer (.unlocking renewal (t.unlockRun x))) := by
  obtain ⟨-, hs, ha, hauto, -⟩ := h
  have hst : t.state = .releasing := ha
  refine ⟨by simp [Lifecycle.renewer?, Session.forgetRenewer], ?_, ⟨hst, rfl, x, hx, rfl⟩, hauto,
    fun _ r hr => by simp [Session.forgetRenewer] at hr⟩
  simp only [Session.Fits, Session.forgetRenewer, hst] at hs ⊢
  exact hs

/-- The call that gives the lock back was answered. -/
theorem Consistent.markReleased {renewal : Option ClientError} {run : Run UnlockRequest}
    (h : Consistent autoRefresh g (.owned s (.unlocking renewal run))) :
    Consistent autoRefresh g (.owned s.markReleased .resting) := by
  obtain ⟨hj, hs, ⟨hst, hr, -⟩, hauto, -⟩ := h
  refine ⟨hj, ?_, trivial, hauto, fun hst' => by simp [Session.markReleased] at hst'⟩
  simp only [Session.Fits, hst] at hs
  obtain ⟨grant, x, hg, hx, -⟩ := hs
  exact ⟨grant, x.markReleased, hg, by simp [Session.markReleased, hx], x.markReleased_hides, hr⟩

theorem Consistent.granted {a : Acquisition} {run : Run Request} (key : String)
    (h : Consistent autoRefresh g (.owned s (.acquiring a run))) :
    Consistent autoRefresh (some ⟨a.name, key, a.options.lease⟩)
      (.owned (s.grant a key now).1 .resting) := by
  obtain ⟨-, hs, ⟨hst, -⟩, hauto, -⟩ := h
  simp only [Session.Fits, hst] at hs
  obtain ⟨-, hr, -⟩ := hs
  refine ⟨?_, ?_, trivial, by simpa using hauto, fun hst' => by simp at hst'⟩
  · intro r hr'
    simp only [Lifecycle.renewer?, Session.grant_renewer, hr] at hr'
    split at hr'
    · rw [Option.some.injEq] at hr'
      simp [← hr']
    · simp at hr'
  · simp only [Session.Fits, Session.grant_state]
    refine ⟨_, _, rfl, Session.grant_handle, LockHandle.held_shows a key now, ?_⟩
    rw [Session.grant_renewer, hr, Session.grant_autoRefresh]
    split <;> simp_all

theorem Consistent.refuse {a : Acquisition} {run : Run Request}
    (h : Consistent autoRefresh g (.owned s (.acquiring a run))) :
    Consistent autoRefresh g (.owned (s.refuse a.name) .resting) := by
  obtain ⟨hj, hs, ⟨hst, -⟩, hauto, -⟩ := h
  simp only [Session.Fits, hst] at hs
  exact ⟨hj, ⟨_, rfl, LockHandle.notHeld_hides a.name, hs.2.1, hs.2.2⟩, trivial, hauto,
    fun hst' => by simp [Session.refuse] at hst'⟩

theorem Consistent.handOver (h : Consistent autoRefresh g (.owned s activity))
    (ho : s.owesUnlock = true) {x : LockHandle} (hx : s.handle = some x) :
    Consistent autoRefresh g (.background (s.handOver x)) := by
  obtain ⟨-, grant, y, hg, hy, hshow⟩ := h.shows_of_owes ho
  obtain rfl : x = y := by rwa [hx, Option.some.injEq] at hy
  exact ⟨h.1, grant, hg, hshow.unlockRequest, trivial⟩

end Owner

/-- Only a session that asks for its lock is granted it. -/
theorem Consistent.grant?_eq_none (h : Consistent autoRefresh g l)
    (hl : ∀ s activity, l = .owned s activity → s.state ≠ .acquiring) :
    Moment.grant? ⟨now, e, l⟩ = none := by
  unfold Moment.grant?
  split
  · rename_i s a run reply hs he
    obtain rfl : l = .owned s (.acquiring a run) := hs
    exact absurd h.activity_fits.1 (hl _ _ rfl)
  · rfl

/-- Who was granted its lock is not granted it again. -/
theorem Consistent.grant?_of_granted {grant : Grant}
    (h : Consistent autoRefresh (some grant) l) : Moment.grant? ⟨now, e, l⟩ = none := by
  refine h.grant?_eq_none ?_
  rintro s activity rfl hst
  have hs := h.fits
  simp [Session.Fits, hst] at hs

/-- A background release that looks for the end of its renewer has
asked it to end. -/
theorem Consistent.backgroundAwaits {b b' : BackgroundRelease}
    (h : Consistent autoRefresh g (.background b)) (ha : b.AwaitsEnd b') :
    Consistent autoRefresh g (.background { b' with stage := .stopping }) := by
  obtain ⟨hj, grant, hg, hreq, hb⟩ := h
  cases ha with
  | first hst =>
      exact ⟨over_of_joined_map hj, grant, hg, hreq, renewalCancelled_map _⟩
  | again hst =>
      simp only [hst] at hb
      exact ⟨hj, grant, hg, hreq, hb⟩

/-- A move that grants nothing keeps what holds of the life. -/
theorem consistent_keep {step : Step Lifecycle OwnerResult} (h : Consistent autoRefresh g l)
    (hm : Move now l e step) (hgrant : Moment.grant? ⟨now, e, l⟩ = none) :
    Consistent autoRefresh g step.next := by
  cases hm with
  | stay _ => exact h
  | renewerWakes hr =>
      refine h.setRenewer _ hr (fun hc => Renewer.wake_flags.1.trans hc) fun hj => ?_
      have hover := h.1 _ hr (Renewer.wake_flags.2.symm.trans hj)
      rw [Renewer.wake_over hover]
      exact hover
  | renewerAnswered reply hr =>
      refine h.setRenewer _ hr (fun hc => Renewer.answer_flags.1.trans hc) fun hj => ?_
      have hover := h.1 _ hr (Renewer.answer_flags.2.symm.trans hj)
      rw [Renewer.answer_over hover]
      exact hover
  | acquireRefused _ => exact h
  | @acquireBegun s a hb =>
      obtain ⟨-, hst, hname, -⟩ := Session.begin_eq_ok hb
      obtain ⟨hj, hs, -, hauto, -⟩ := h
      simp only [Session.Fits, hst] at hs
      exact ⟨hj, hs, ⟨rfl, hname, rfl⟩, hauto, by simp⟩
  | acquireRetried hrun =>
      obtain ⟨hst, hname, hreq⟩ := h.activity_fits
      exact h.changeActivity ⟨hst, hname, (Run.resume?_eq_some hrun).2.1.trans hreq⟩
  | acquirePaused _ hp =>
      obtain ⟨hsame, -, status, rfl⟩ := Run.answer_pausing hp
      obtain ⟨hst, hname, hreq⟩ := h.activity_fits
      exact h.changeActivity ⟨hst, hname, hsame.trans hreq⟩
  | granted hw hkey => simp [Moment.grant?, hw, hkey] at hgrant
  | notGranted _ _ _ _ => exact h.refuse
  | acquireCrashed _ => exact h.changeActivity trivial
  | releaseIdle _ => exact h
  | releaseWaits ha _ _ => exact h.awaitsEnd ha
  | @releaseBreaks s activity e t r text ha hr hb =>
      -- the breakdown is taken over, so the next release does not meet it again
      have hover : r.isAlive = false := Renewer.isAlive_false_of_isBroken hb
      have hset := (h.awaitsEnd ha).setRenewer { r with joined := true } hr id
        fun _ => hover
      exact hset.changeActivity trivial
  | @releaseUnlocks s activity e t x renewal log ha _ hx =>
      exact (h.awaitsEnd ha).beginUnlock hx renewal
  | releaseLost ha hx => exact absurd hx (h.handle_ne_none ha)
  | unlockRetried hrun =>
      obtain ⟨hst, hr, x, hx, hreq⟩ := h.activity_fits
      exact h.changeActivity ⟨hst, hr, x, hx, (Run.resume?_eq_some hrun).2.1.trans hreq⟩
  | unlockPaused _ hp =>
      obtain ⟨hst, hr, x, hx, hreq⟩ := h.activity_fits
      exact h.changeActivity ⟨hst, hr, x, hx, (Run.answer_pausing hp).1.trans hreq⟩
  | released _ _ _ => exact h.markReleased
  | unlockCrashed _ => exact h.changeActivity trivial
  | abandoned => exact h.changeActivity trivial
  | handedOver ho hx => exact h.handOver ho hx
  | letGo _ => exact ⟨over_of_joined_map h.1, renewalCancelled_map _⟩
  | backgroundWaits ha _ _ => exact h.backgroundAwaits ha
  | backgroundBreaks ha _ _ =>
      obtain ⟨-, grant, hg, hreq, -⟩ := h.backgroundAwaits ha
      exact ⟨by simp [Step.stay, Lifecycle.renewer?], grant, hg, hreq, rfl⟩
  | backgroundUnlocks ha _ =>
      obtain ⟨-, grant, hg, hreq, -⟩ := h.backgroundAwaits ha
      exact ⟨by simp [Lifecycle.renewer?, BackgroundRelease.beginUnlock], grant, hg, hreq, rfl,
        hreq⟩
  | @backgroundRetried b run run' hst hrun =>
      obtain ⟨hj, grant, hg, hreq, hb⟩ := h
      simp only [hst] at hb
      exact ⟨hj, grant, hg, hreq, hb.1, (Run.resume?_eq_some hrun).2.1.trans hb.2⟩
  | @backgroundPaused b run run' reply log hst _ hp =>
      obtain ⟨hj, grant, hg, hreq, hb⟩ := h
      simp only [hst] at hb
      exact ⟨hj, grant, hg, hreq, hb.1, (Run.answer_pausing hp).1.trans hb.2⟩
  | @backgroundDone b run reply log hst _ =>
      obtain ⟨hj, grant, hg, hreq, hb⟩ := h
      simp only [hst] at hb
      exact ⟨hj, grant, hg, hreq, hb.1⟩

/-- Every move keeps what holds of the life, and adds what it grants. -/
theorem consistent_move {step : Step Lifecycle OwnerResult} (h : Consistent autoRefresh g l)
    (hm : Move now l e step) :
    Consistent autoRefresh (g.or (Moment.grant? ⟨now, e, l⟩)) step.next := by
  cases hgrant : Moment.grant? ⟨now, e, l⟩ with
  | none =>
      rw [Option.or_none]
      exact consistent_keep h hm hgrant
  | some grant =>
      obtain ⟨s, a, run, reply, key, rfl, rfl, hw, hkey, rfl⟩ := grant?_eq_some hgrant
      -- nothing can have been granted before
      have hg : g = none := by
        have hs := h.fits
        simp only [Session.Fits, h.activity_fits.1] at hs
        exact hs.2.2
      rw [hg, Option.none_or]
      cases hm with
      | stay hi => exact absurd (hgrant.symm.trans (grant?_of_ignores hi)) (by simp)
      | acquirePaused _ hp =>
          obtain ⟨-, -, status, rfl⟩ := Run.answer_pausing hp
          simp [Reply.key?, Reply.outcome] at hkey
      | granted _ hkey' =>
          obtain rfl := Option.some.inj (hkey.symm.trans hkey')
          exact h.granted key
      | notGranted _ hnone _ _ => exact absurd (hkey.symm.trans hnone) (by simp)
      | acquireCrashed _ => simp [Reply.key?, Reply.outcome] at hkey
      | releaseWaits ha _ _ | releaseBreaks ha _ _ | releaseUnlocks ha _ _ | releaseLost ha _ =>
          cases ha

/-! ## Wherever a run leads -/

theorem consistent_new (policy : RetryPolicy) (autoRefresh : Bool) :
    Consistent autoRefresh none (.new policy autoRefresh) :=
  ⟨by simp [new, Lifecycle.renewer?], ⟨rfl, rfl, rfl⟩, trivial, rfl, by simp⟩

theorem consistent_run (policy : RetryPolicy) (autoRefresh : Bool) (es : List (Nat × Event)) :
    Consistent autoRefresh (granted ((new policy autoRefresh).moments es))
      ((new policy autoRefresh).after es) := by
  refine run_induction (P := fun ms l => Consistent autoRefresh (granted ms) l)
    (consistent_new policy autoRefresh) ?_ es
  intro es now e h
  rw [granted_concat]
  exact consistent_move h (step_move _ _ _)

/-- Every event of a run meets a consistent life. -/
theorem consistent_before {policy : RetryPolicy} {autoRefresh : Bool} {es : List (Nat × Event)}
    {ms₁ ms₂ : List Moment} {m : Moment}
    (h : (new policy autoRefresh).moments es = ms₁ ++ m :: ms₂) :
    Consistent autoRefresh (granted ms₁) m.before := by
  obtain ⟨es₁, -, -, rfl, hb, -⟩ := moments_split h
  rw [hb]
  exact consistent_run policy autoRefresh es₁

end Lifecycle

end DistLock
