import DistLock.Proofs.Lifecycle.Renewers
import DistLock.Proofs.Lifecycle.Requests
import DistLock.Proofs.Message.Requests

/-!
# From the wish for a lock to what the service reads

A session is used for one lock, so all its requests for a lock are the same
(`asks_unique`), and the one that its owner wished for (`acquire_sent`). Its
renewals begin with a lease that is not zero (`refresh_lease_ne_zero`), and
say the lease of that wish.

Together with the layout of the requests that is what the service sees, from
the options of an acquisition to the fields that are read on the other side
(`requests_faithful`).
-/

namespace DistLock

namespace Lifecycle

variable {now : Nat} {autoRefresh : Bool} {l : Lifecycle} {step : Step Lifecycle OwnerResult}
  {policy : RetryPolicy} {es : List (Nat × Event)}

/-! ## The request for the lock -/

/-- An owner who sends something asks for what it wishes, and does not give
a time to wait where there is no waiting. -/
theorem acquire_sent {a : Acquisition} {q : Request} (hm : Move now l (.acquire a) step)
    (hq : step.sent = some q) :
    q = a.request ∧ (a.waits = false → a.options.waitTimeout = 0) := by
  cases hm with
  | stay _ => cases hq
  | acquireRefused _ => cases hq
  | acquireBegun hb =>
      obtain ⟨-, -, -, hcheck⟩ := Session.begin_eq_ok hb
      refine ⟨(Option.some.inj hq).symm, ?_⟩
      intro hwaits
      unfold Acquisition.check at hcheck
      by_cases hzero : a.options.waitTimeout = 0
      · exact hzero
      · have hpositive : 0 < a.options.waitTimeout := UInt32.pos_iff_ne_zero.2 hzero
        simp [hwaits, hpositive] at hcheck
  | releaseWaits ha _ _ | releaseBreaks ha _ _ | releaseUnlocks ha _ _ | releaseLost ha _ =>
      cases ha

/-- All requests of a run for a lock are the same. -/
theorem asks_unique {m m' : Moment} (hm : m ∈ (new policy autoRefresh).moments es)
    (hm' : m' ∈ (new policy autoRefresh).moments es) {q q' : Request} (hq : m.sent = some q)
    (hq' : m'.sent = some q') (hasks : q.asks = true) (hasks' : q'.asks = true) : q = q' := by
  -- of two moments, the later one sends the request of the acquisition
  -- that is under way then
  have hlater {ms₁ ms₂ : List Moment} {x y : Moment} {p p' : Request}
      (hsplit : (new policy autoRefresh).moments es = ms₁ ++ x :: ms₂) (hy : y ∈ ms₁)
      (hp : x.sent = some p) (hp' : y.sent = some p') (hpasks : p.asks = true)
      (hpasks' : p'.asks = true) : p = p' := by
    obtain ⟨es₁, es₂, -, hms₁, hb, -⟩ := moments_split hsplit
    have hmove := step_move x.before x.now x.event
    obtain ⟨s, a, run, hnext, rfl⟩ :=
      (sends_of_move (consistent_before hsplit) hmove hp).asks hpasks
    have hrun : (new policy autoRefresh).moments (es₁ ++ [(x.now, x.event)]) = ms₁ ++ [x] := by
      rw [moments_append, ← hms₁, ← hb]
      rfl
    have hafter : (new policy autoRefresh).after (es₁ ++ [(x.now, x.event)]) =
        .owned s (.acquiring a run) := by
      rw [after_append, ← hb]
      exact hnext
    have hold := asks_of_run policy autoRefresh (es₁ ++ [(x.now, x.event)]) s _ hafter y
      (by rw [hrun]; exact List.mem_append_left _ hy) p' hp' hpasks'
    exact (hold.2 a run rfl).symm
  obtain ⟨ms₁, ms₂, hsplit⟩ := List.append_of_mem hm
  rw [hsplit] at hm'
  rcases List.mem_append.1 hm' with hbefore | hfrom
  · exact hlater hsplit hbefore hq hq' hasks hasks'
  · rcases List.mem_cons.1 hfrom with rfl | hbehind
    · exact Option.some.inj (hq.symm.trans hq')
    · obtain ⟨ms₃, ms₄, rfl⟩ := List.append_of_mem hbehind
      have hcut : (new policy autoRefresh).moments es = (ms₁ ++ m :: ms₃) ++ m' :: ms₄ := by
        rw [hsplit, List.append_assoc, List.cons_append]
      have hmem : m ∈ ms₁ ++ m :: ms₃ := List.mem_append_right _ List.mem_cons_self
      exact (hlater hcut hmem hq' hq hasks' hasks).symm

/-! ## The requests of its renewals -/

/-- A renewer sends its own request, and has a lease that is not zero. -/
theorem refresh_lease_ne_zero {m : Moment} (hm : m ∈ (new policy autoRefresh).moments es)
    {u : RefreshLockRequest} (hu : m.sent = some (.refreshLock u)) : u.lease ≠ 0 := by
  obtain ⟨es₁, es₂, -, hb, hsplit⟩ := mem_moments hm
  have hrenewer {r : Renewer} (hr : m.before.renewer? = some r) :
      r.IsFaithful ∧ 0 < r.lease := by
    rw [hb] at hr
    refine renewer_of_run (P := fun r => r.IsFaithful ∧ 0 < r.lease) ?_ ?_ ?_ ?_ ?_
      policy autoRefresh es₁ hr
    · intro policy name key lease hlease
      exact ⟨Renewer.isFaithful_of_stage rfl, hlease⟩
    · intro r hr
      exact hr
    · intro r hr
      exact hr
    · intro now r hr
      have hwakes := r.wakes_of_wake now
      refine ⟨(hwakes.faithful hr.1).1, ?_⟩
      rw [hwakes.sameLock.lease]
      exact hr.2
    · intro now reply r hr
      have hanswers := r.answers_of_answer now reply
      refine ⟨hanswers.faithful hr.1, ?_⟩
      rw [hanswers.sameLock.lease]
      exact hr.2
  obtain ⟨r, hr, hsent⟩ := wake_of_sent (consistent_before hsplit) (step_move _ _ _) hu
  obtain ⟨hfaithful, hlease⟩ := hrenewer hr
  have hrequest := ((r.wakes_of_wake m.now).faithful hfaithful).2 _ hsent
  obtain rfl := Request.refreshLock.inj hrequest
  intro hzero
  have hnone : r.lease = 0 := clampNumber_eq_zero_iff.1 hzero
  rw [hnone] at hlease
  exact absurd hlease (by decide)

/-- A renewal names the lock that was wished for, and says the
lease of the wish. -/
theorem refresh_wish {a : Acquisition} {x m : Moment}
    (hx : x ∈ (new policy autoRefresh).moments es) (hask : x.sent = some a.request)
    (hm : m ∈ (new policy autoRefresh).moments es) {u : RefreshLockRequest}
    (hu : m.sent = some (.refreshLock u)) :
    ∃ key lease, u = .ofSeconds a.name key lease ∧
      nonZeroNumber lease = nonZeroNumber a.options.lease := by
  obtain ⟨es₁, es₂, -, hb, hsplit⟩ := mem_moments hm
  have hserved : Served (granted ((new policy autoRefresh).moments es₁)) m.before := by
    rw [hb]
    exact served_of_run policy autoRefresh es₁
  obtain ⟨grant, hgrant, rfl⟩ :=
    refreshRequest_of_sent (consistent_before hsplit) hserved (step_move _ _ _) hu
  have hgranted : granted ((new policy autoRefresh).moments es) = some grant := by
    rw [hsplit, granted_append, hgrant, Option.some_or]
  obtain ⟨a', hname, hlease, hall⟩ := acquisition_of_granted hgranted
  have hsame : a.request = a'.request := hall x hx a.request hask a.request_asks
  have hnames : a.name = grant.name := by
    rw [← hname, ← a.request_name, hsame, a'.request_name]
  have hleases : nonZeroNumber a.options.lease = nonZeroNumber grant.lease := by
    rw [← hlease, ← a.request_lease, hsame, a'.request_lease]
  exact ⟨grant.key, grant.lease, by rw [hnames]; rfl, hleases.symm⟩

/-! ## What the service reads -/

/-- **Requests are faithful.** Once an owner has asked for a lock, every
request of the session for a lock, the repeated ones included, has the same
bytes: under their tags the name and the numbers of the wish, none of which
is there when it is zero, and no time to wait where there is no waiting. The
service reads in them just that, and in every renewal the same lease. -/
theorem requests_faithful {x : Moment} (hx : x ∈ (new policy autoRefresh).moments es)
    {a : Acquisition} (ha : x.event = .acquire a) {q₀ : Request} (hq₀ : x.sent = some q₀) :
    (a.waits = false → a.options.waitTimeout = 0) ∧
      (∀ m ∈ (new policy autoRefresh).moments es, ∀ q, m.sent = some q → q.asks = true →
        q.operation = a.operation ∧ q.encode = a.bytes ∧
          (q.Storable → ∃ seen, q.seen? = some seen ∧ a.IsSeen seen)) ∧
      ∀ m ∈ (new policy autoRefresh).moments es, ∀ u, m.sent = some (.refreshLock u) →
        (Request.refreshLock u).encode =
            textEntry 1 a.name ++ (textEntry 2 u.key ++ numberEntry 3 a.options.lease) ∧
          ((Request.refreshLock u).Storable →
            (Request.refreshLock u).seen? = some (.refreshLock u) ∧ u.name = a.name ∧
              Shows (some u.lease) a.options.lease ∧
              (a.request.Storable → a.request.seen?.bind (·.lease?) = some u.lease)) := by
  have hfirst : Move x.now x.before (.acquire a) x.step := by
    rw [← ha]
    exact step_move _ _ _
  obtain ⟨rfl, hwait⟩ := acquire_sent hfirst hq₀
  refine ⟨hwait, ?_, ?_⟩
  · intro m hm q hq hasks
    obtain rfl : q = a.request := asks_unique hm hx hq hq₀ hasks a.request_asks
    refine ⟨a.request_operation, a.encode_request, ?_⟩
    intro hstorable
    exact ⟨a.request, Request.seen?_of_storable hstorable, a.isSeen_request⟩
  · intro m hm u hu
    have hnonzero : u.lease ≠ 0 := refresh_lease_ne_zero hm hu
    obtain ⟨key, lease, rfl, hlease⟩ := refresh_wish hx hq₀ hm hu
    have hpositive : lease ≠ 0 := by
      intro hzero
      exact hnonzero (clampNumber_eq_zero_iff.2 hzero)
    have hshown : nonZeroNumber a.options.lease = some (clampNumber lease) := by
      rw [← hlease]
      exact if_neg hpositive
    constructor
    · rw [encode_refreshRequest, ← write_nonZeroNumber 3 lease, hlease, write_nonZeroNumber]
      rfl
    · intro hstorable
      refine ⟨Request.seen?_of_storable hstorable, rfl, ?_, ?_⟩
      · have hshows := shows_nonZeroNumber a.options.lease
        rw [hshown] at hshows
        exact hshows
      · intro hask
        rw [Request.seen?_of_storable hask, Option.bind_some, a.request_lease, hshown]
        rfl

/-- A run in which a request for a lock with the longest lease is repeated,
and the lease is renewed. -/
def clampedRun : List (Nat × Event) :=
  [(0, .acquire ⟨true, "job-42", { waitTimeout := 5, lease := 4294967295 }⟩),
    (0, .answer (.acquired (.failure { code := .unavailable }))), (5000, .wake .holder),
    (5000, .answer (.acquired (.response (.granted "job-42" "key-1")))), (5000, .wake .renewer),
    (4294967270000, .wake .renewer)]

/-- The second request has the bytes of the wish, without a size, and the
renewal says the largest number for the lease, as that request did. -/
theorem requests_faithful_clamped :
    Request.encode (.lock ⟨"job-42", some 5, some 2147483647, none⟩) =
        textEntry 1 "job-42" ++ (numberEntry 2 5 ++
          (numberEntry 3 4294967295 ++ numberEntry 4 0)) ∧
      Shows (some 2147483647) 4294967295 ∧
      (Request.lock ⟨"job-42", some 5, some 2147483647, none⟩).seen?.bind (·.lease?) =
        some 2147483647 := by
  have hfirst : ⟨0, .acquire ⟨true, "job-42", { waitTimeout := 5, lease := 4294967295 }⟩,
      new {} true⟩ ∈ (new {} true).moments clampedRun := .head _
  obtain ⟨-, hasked, hrenewed⟩ := requests_faithful hfirst rfl rfl
  have hsecond := hasked _ (.tail _ (.tail _ (.head _)))
    (.lock ⟨"job-42", some 5, some 2147483647, none⟩) rfl rfl
  have hrenewal := hrenewed _ (.tail _ (.tail _ (.tail _ (.tail _ (.tail _ (.head _))))))
    ⟨"job-42", "key-1", 2147483647⟩ rfl
  have hnames : ∀ x ∈ ["job-42", "key-1"], x.utf8ByteSize < 2 ^ 63 := by decide
  obtain ⟨-, -, hshows, hlease⟩ := hrenewal.2 hnames
  refine ⟨hsecond.2.1, hshows, ?_⟩
  have hname : ∀ x ∈ ["job-42"], x.utf8ByteSize < 2 ^ 63 := by decide
  exact hlease hname

end Lifecycle

end DistLock
