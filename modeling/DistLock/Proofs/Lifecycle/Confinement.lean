import DistLock.Proofs.Lifecycle.Requests

/-!
# Where the key of a lock goes

The key of a lock comes from one response, the one that granted it, and the
name from the wish for the lock; the name that the response says is not
looked at, nor is anything in a later response.

* A renewer serves what was granted and a request to give back a lock names
  it, so every request with a key has that name and that key, and comes
  after the grant (`key_of_sent`).
* A wish for a lock is granted once (`grant_of_run`), and it is the wish of
  the owner that was sent (`acquire_of_run`).
* A session that was granted its lock is `released` once a release
  has returned, and not before (`released_of_run`); until then the
  handle shows the key.
-/

namespace DistLock

/-- The key with which a request shows that its sender holds the lock. -/
def Request.key? : Request → Option String
  | .lock _ | .tryLock _ => none
  | .refreshLock r => some r.key
  | .unlock r => some r.key

/-- A release returned after the lock was granted. -/
def ReleaseReturned (ms : List Moment) : Prop :=
  ∃ ms₁ m ms₂, ms = ms₁ ++ m :: ms₂ ∧ (granted ms₁).isSome = true ∧ m.returnsRelease = true

theorem not_releaseReturned_nil : ¬ ReleaseReturned [] := by
  rintro ⟨ms₁, m, ms₂, h, -⟩
  simp at h

theorem releaseReturned_concat {ms : List Moment} {m : Moment} :
    ReleaseReturned (ms ++ [m]) ↔
      ReleaseReturned ms ∨ ((granted ms).isSome = true ∧ m.returnsRelease = true) := by
  constructor
  · rintro ⟨ms₁, x, ms₂, h, hgranted, hreturns⟩
    rcases List.eq_nil_or_concat ms₂ with rfl | ⟨ms₃, y, rfl⟩
    · obtain ⟨rfl, rfl⟩ := List.append_singleton_inj.1 h
      exact .inr ⟨hgranted, hreturns⟩
    · rw [List.concat_eq_append, ← List.cons_append, ← List.append_assoc] at h
      obtain ⟨rfl, rfl⟩ := List.append_singleton_inj.1 h
      exact .inl ⟨ms₁, x, ms₃, rfl, hgranted, hreturns⟩
  · rintro (⟨ms₁, x, ms₂, rfl, hgranted, hreturns⟩ | ⟨hgranted, hreturns⟩)
    · exact ⟨ms₁, x, ms₂ ++ [m], by simp, hgranted, hreturns⟩
    · exact ⟨ms, m, [], rfl, hgranted, hreturns⟩

/-- A reply with a key is a response that grants the lock and holds no
decision against it. -/
theorem Reply.key?_eq_some {reply : Reply LockResponse} {key : String} :
    reply.key? = some key ↔ ∃ response, reply = .response response ∧ response.error = none ∧
      response.locked = true ∧ response.key = key := by
  cases reply with
  | response r =>
      cases hd : r.error with
      | none => simp [Reply.key?, Reply.outcome, decision, hd]
      | some d => simp [Reply.key?, Reply.outcome, decision, hd]
  | failure status => simp [Reply.key?, Reply.outcome]
  | crash text => simp [Reply.key?, Reply.outcome]

namespace Lifecycle

variable {now : Nat} {autoRefresh : Bool} {g : Option Grant} {l : Lifecycle} {e : Event}
  {step : Step Lifecycle OwnerResult} {policy : RetryPolicy} {es : List (Nat × Event)}

/-! ## What is sent -/

/-- A request with a key comes after the grant, and has its
name and its key. -/
theorem key_of_sent {ms₁ ms₂ : List Moment} {m : Moment}
    (h : (new policy autoRefresh).moments es = ms₁ ++ m :: ms₂) {q : Request} {key : String}
    (hq : m.sent = some q) (hkey : q.key? = some key) :
    ∃ grant, granted ms₁ = some grant ∧ q.name = grant.name ∧ key = grant.key := by
  cases q with
  | lock r | tryLock r => cases hkey
  | unlock u =>
      obtain rfl := Option.some.inj hkey
      obtain ⟨⟨grant, hg, rfl⟩, -⟩ := (sends_of_split h hq).unlock
      exact ⟨grant, hg, rfl, rfl⟩
  | refreshLock u =>
      obtain rfl := Option.some.inj hkey
      obtain ⟨es₁, -, -, hms₁, hb, -⟩ := moments_split h
      have hserved : Served (granted ms₁) m.before := by
        rw [hb, hms₁]
        exact served_of_run policy autoRefresh es₁
      obtain ⟨grant, hg, rfl⟩ :=
        refreshRequest_of_sent (consistent_before h) hserved (step_move _ _ _) hq
      exact ⟨grant, hg, rfl, rfl⟩

/-! ## The grant -/

/-- An acquisition that is under way was begun by its owner, and sent. -/
theorem acquire_of_run (policy : RetryPolicy) (autoRefresh : Bool) (es : List (Nat × Event))
    {s : Session} {a : Acquisition} {run : Run Request}
    (h : (new policy autoRefresh).after es = .owned s (.acquiring a run)) :
    ∃ x ∈ (new policy autoRefresh).moments es, x.event = .acquire a ∧ x.sent = some a.request := by
  refine run_induction (l := new policy autoRefresh) (P := fun ms l => ∀ s a run,
    l = .owned s (.acquiring a run) →
      ∃ x ∈ ms, x.event = .acquire a ∧ x.sent = some a.request) ?_ ?_ es s a run h
  · intro s a run h
    cases h
  · intro es now e ih s a run hn
    obtain ⟨s₀, activity, hl, ⟨run₀, rfl⟩ | ⟨-, he, hsent⟩⟩ :=
      acquiring_of_move (step_move _ now e) hn
    · obtain ⟨x, hx, hevent⟩ := ih s₀ a run₀ hl
      exact ⟨x, List.mem_append_left _ hx, hevent⟩
    · exact ⟨_, List.mem_append_right _ (List.mem_singleton_self _), he, hsent⟩

/-- One response grants the lock, to the owner that asked for it, and no
other response does. -/
theorem grant_of_run {grant : Grant}
    (hg : granted ((new policy autoRefresh).moments es) = some grant) :
    ∃ ms₁ m ms₂ a response, (new policy autoRefresh).moments es = ms₁ ++ m :: ms₂ ∧
      (∃ x ∈ ms₁, x.event = .acquire a ∧ x.sent = some a.request) ∧ grant.name = a.name ∧
      m.event = .answer (.acquired (.response response)) ∧ response.locked = true ∧
      grant.key = response.key ∧ ∀ x ∈ ms₁ ++ ms₂, x.grant? = none := by
  obtain ⟨ms₁, m, ms₂, hsplit, hm, hbefore⟩ := List.findSome?_eq_some_iff.1 hg
  obtain ⟨s, a, run, reply, key, hl, he, -, hkey, rfl⟩ := grant?_eq_some hm
  obtain ⟨response, rfl, -, hlocked, rfl⟩ := Reply.key?_eq_some.1 hkey
  obtain ⟨es₁, -, -, hms₁, hb, -⟩ := moments_split hsplit
  refine ⟨ms₁, m, ms₂, a, response, hsplit, ?_, rfl, he, hlocked, rfl, ?_⟩
  · rw [hms₁]
    exact acquire_of_run policy autoRefresh es₁ (hb.symm.trans hl)
  · intro x hx
    rcases List.mem_append.1 hx with hx | hx
    · exact hbefore x hx
    · -- whoever was granted its lock is not granted it again
      obtain ⟨ms₃, ms₄, rfl⟩ := List.append_of_mem hx
      have hcut : (new policy autoRefresh).moments es = (ms₁ ++ m :: ms₃) ++ x :: ms₄ := by
        rw [hsplit, List.append_assoc, List.cons_append]
      have hc := consistent_before hcut
      obtain ⟨grant', hgrant'⟩ : ∃ grant', granted (ms₁ ++ m :: ms₃) = some grant' :=
        Option.isSome_iff_exists.1 (by simp [granted, hm])
      rw [hgrant'] at hc
      exact hc.grant?_of_granted

/-! ## The handle -/

/-- A release of a lock that was granted leaves the session released
when it returns. -/
theorem released_of_return {grant : Grant} (h : Consistent autoRefresh (some grant) l)
    (hm : Move now l e step) (hr : step.result.any (·.isReturn) = true) {s : Session}
    {activity : Activity} (hn : step.next = .owned s activity) : s.state = .released := by
  cases hm with
  | @releaseIdle s₀ howes =>
      obtain ⟨rfl, -⟩ := Lifecycle.owned.inj hn
      have hs := h.fits
      rw [h.owesUnlock_eq] at howes
      cases hst : s₀.state <;> simp [Session.Fits, hst] at hs howes ⊢
  | released _ _ _ =>
      obtain ⟨rfl, -⟩ := Lifecycle.owned.inj hn
      rfl
  | releaseLost ha hx => exact absurd hx (h.handle_ne_none ha)
  | _ => exact absurd hr (by simp [Step.stay, Step.silent, OwnerResult.isReturn])

/-- A session is released when a release has returned since the
lock was granted. -/
theorem released_of_run (policy : RetryPolicy) (autoRefresh : Bool) (es : List (Nat × Event))
    {s : Session} {activity : Activity}
    (h : (new policy autoRefresh).after es = .owned s activity) :
    s.state = .released ↔ ReleaseReturned ((new policy autoRefresh).moments es) := by
  refine run_induction (l := new policy autoRefresh) (P := fun ms l => ∀ s activity,
    l = .owned s activity → (s.state = .released ↔ ReleaseReturned ms)) ?_ ?_ es s activity h
  · intro s activity h
    obtain ⟨rfl, -⟩ := Lifecycle.owned.inj h
    simp [not_releaseReturned_nil]
  · intro es now e ih s' activity' hn
    have hc := consistent_run policy autoRefresh es
    have hm := step_move ((new policy autoRefresh).after es) now e
    obtain ⟨s, activity, hl, hstate⟩ := state_of_move hc hm hn
    have hold := ih s activity hl
    rw [hl] at hc
    rw [releaseReturned_concat, ← hold]
    constructor
    · intro hst
      rcases hstate with hsame | ⟨hlead, hreturn⟩
      · exact .inl (hsame.symm.trans hst)
      · -- only a session that is being released becomes released, and its lock was granted
        rw [hst] at hlead
        cases hs : s.state <;> rw [hs] at hlead <;> cases hlead
        have hfits := hc.fits
        simp only [Session.Fits, hs] at hfits
        obtain ⟨grant, -, hg, -⟩ := hfits
        exact .inr ⟨by rw [hg]; rfl, hreturn hst⟩
    · rintro (hst | ⟨hg, hreturn⟩)
      · rcases hstate with hsame | ⟨hlead, -⟩
        · exact hsame.trans hst
        · rw [hst] at hlead
          cases hlead
      · obtain ⟨grant, hg⟩ := Option.isSome_iff_exists.1 hg
        rw [hg, ← hl] at hc
        exact released_of_return hc hm hreturn hn

/-- What the handle shows, given what was granted. -/
theorem Consistent.key?_eq_some {s : Session} {activity : Activity}
    (h : Consistent autoRefresh g (.owned s activity)) (key : String) :
    s.handle.bind (·.key?) = some key ↔
      ∃ grant, g = some grant ∧ key = grant.key ∧ s.state ≠ .released := by
  have hs := h.fits
  cases hst : s.state <;> simp only [Session.Fits, hst] at hs
  case idle | acquiring => simp [hs.1, hs.2.2]
  case held =>
      obtain ⟨grant, x, hg, hx, hshow, -⟩ := hs
      simp [hg, hx, hshow.key, eq_comm]
  case notHeld =>
      obtain ⟨x, hx, hhide, -, hg⟩ := hs
      simp [hg, hx, hhide.key]
  case releasing =>
      obtain ⟨grant, x, hg, hx, hshow⟩ := hs
      simp [hg, hx, hshow.key, eq_comm]
  case released =>
      obtain ⟨grant, x, -, hx, hhide, -⟩ := hs
      simp [hx, hhide.key]

/-! ## The whole -/

/-- **Key confinement.** Whatever the service says and whatever its owner
does: every request of a session that carries a key is sent after the
response that granted the lock, with the name that the owner asked for and
the key of that response; no other response grants anything; and the handle
shows the key, and no other, from then on until a release returns. -/
theorem key_confined (policy : RetryPolicy) (autoRefresh : Bool) (es : List (Nat × Event)) :
    let ms := (new policy autoRefresh).moments es
    (∀ ms₁ m ms₂ q key, ms = ms₁ ++ m :: ms₂ → m.sent = some q → q.key? = some key →
      ∃ grant, granted ms₁ = some grant ∧ q.name = grant.name ∧ key = grant.key) ∧
    (∀ grant, granted ms = some grant → ∃ ms₁ m ms₂ a response, ms = ms₁ ++ m :: ms₂ ∧
      (∃ x ∈ ms₁, x.event = .acquire a ∧ x.sent = some a.request) ∧ grant.name = a.name ∧
      m.event = .answer (.acquired (.response response)) ∧ response.locked = true ∧
      grant.key = response.key ∧ ∀ x ∈ ms₁ ++ ms₂, x.grant? = none) ∧
    ∀ s activity, (new policy autoRefresh).after es = .owned s activity → ∀ key,
      (s.handle.bind (·.key?) = some key ↔
        ∃ grant, granted ms = some grant ∧ key = grant.key ∧ ¬ ReleaseReturned ms) := by
  intro ms
  refine ⟨?_, ?_, ?_⟩
  · intro ms₁ m ms₂ q key hsplit hq hkey
    exact key_of_sent hsplit hq hkey
  · intro grant hgrant
    exact grant_of_run hgrant
  · intro s activity hl key
    have hc := consistent_run policy autoRefresh es
    rw [hl] at hc
    rw [hc.key?_eq_some key, ne_eq, released_of_run policy autoRefresh es hl]

/-- A run in which the service says another name with the grant, and another
key with the answer to a renewal. -/
def echoedRun : List (Nat × Event) :=
  [(0, .acquire ⟨false, "job-42", { lease := 20 }⟩),
    (0, .answer (.acquired (.response (.granted "job-43" "key-1")))), (0, .wake .renewer),
    (10000, .wake .renewer), (10000, .answer (.refreshed (.response (.granted "job-42" "key-2")))),
    (10001, .release), (10001, .wake .renewer), (10001, .wake .holder)]

/-- The renewal and the return of the lock carry the name that was asked for
and the first key, which the handle shows until the release returns. -/
theorem key_confined_echoed :
    (∃ ms₁ m ms₂, (new {} true).moments echoedRun = ms₁ ++ m :: ms₂ ∧
      m.sent = some (.unlock ⟨"job-42", "key-1"⟩) ∧
      ∃ grant, granted ms₁ = some grant ∧ "job-42" = grant.name ∧ "key-1" = grant.key) ∧
    (∃ a, "job-42" = Acquisition.name a ∧ ∃ x ∈ (new {} true).moments echoedRun,
      x.event = .acquire a) ∧
    ∃ s activity, (new {} true).after echoedRun = .owned s activity ∧ s.state = .releasing ∧
      ¬ ReleaseReturned ((new {} true).moments echoedRun) := by
  obtain ⟨hsent, hgrant, hshown⟩ := key_confined {} true echoedRun
  refine ⟨⟨(new {} true).moments (echoedRun.take 7), _, [], rfl, rfl, ?_⟩, ?_, ?_⟩
  · exact hsent _ _ [] (.unlock ⟨"job-42", "key-1"⟩) "key-1" rfl rfl rfl
  · obtain ⟨ms₁, m, ms₂, a, response, hsplit, ⟨x, hx, he, -⟩, hname, -⟩ :=
      hgrant ⟨"job-42", "key-1", 20⟩ (by decide)
    exact ⟨a, hname, x, by rw [hsplit]; exact List.mem_append_left _ hx, he⟩
  · refine ⟨_, _, rfl, rfl, ?_⟩
    obtain ⟨grant, -, -, hnot⟩ := (hshown _ _ rfl "key-1").1 rfl
    exact hnot

end Lifecycle

end DistLock
