import Mathlib.Logic.Relation
import DistLock.Proofs.Lifecycle.Duty
import DistLock.Proofs.Parties.Party

/-!
# No lock is lost

Any number of parties use a service that answers on the spot: a lock is
granted and its new owner learns it in one step. A call that fails does
not reach the table of the service, and a lock is taken back from whoever
has its key. No call breaks down, and the calls that give a lock back
fail only for a while.

The books of such a service always balance (`Balanced`): each lock that was
granted is owed by one party, by the owner of a session that is held or
being released, or by a release in the background; and each lock that is
owed is held. So the table is what it was at the start when nobody owes
anything any more (`entries_owed`).
-/

namespace DistLock

/-! ## The books -/

/-- `Balanced held₀ held owes`: of the locks that are `held`, those that
were not held at the start are owed, each by one party, and those that were
are still held. -/
structure Balanced (held₀ held : String → Option String) (owes : Nat → Option UnlockRequest) :
    Prop where
  owed : ∀ i u, owes i = some u → held u.name = some u.key ∧ held₀ u.name = none
  unique : ∀ i j u v, owes i = some u → owes j = some v → u.name = v.name → i = j
  granted : ∀ name key, held name = some key → held₀ name = none →
    ∃ i, owes i = some ⟨name, key⟩
  initial : ∀ name key, held₀ name = some key → held name = some key

namespace Balanced

variable {held₀ held : String → Option String} {owes : Nat → Option UnlockRequest} {i : Nat}
  {u : UnlockRequest}

theorem start (held₀ : String → Option String) : Balanced held₀ held₀ fun _ => none :=
  ⟨by simp, by simp, fun name key h hnone => by simp [hnone] at h, fun _ _ => id⟩

/-- A lock that was free goes to a party that owed none. -/
theorem grant (h : Balanced held₀ held owes) (hfree : held u.name = none) (hi : owes i = none) :
    Balanced held₀ (Function.update held u.name (some u.key))
      (Function.update owes i (some u)) := by
  have hinitial : held₀ u.name = none := by
    cases hk : held₀ u.name with
    | none => rfl
    | some key => simp [h.initial u.name key hk] at hfree
  -- whoever owes something else owes a lock of another name, for that lock is held
  have hother : ∀ j v, owes j = some v → v.name ≠ u.name := by
    intro j v hj heq
    have hheld := (h.owed j v hj).1
    simp [heq, hfree] at hheld
  refine ⟨?_, ?_, ?_, ?_⟩
  · intro j v hj
    obtain ⟨rfl, ⟨⟩⟩ | ⟨-, hold⟩ := update_eq_some hj
    · exact ⟨by simp, hinitial⟩
    · rw [Function.update_of_ne (hother j v hold)]
      exact h.owed j v hold
  · intro j k v v' hj hk hname
    obtain ⟨rfl, ⟨⟩⟩ | ⟨-, hold⟩ := update_eq_some hj <;>
      obtain ⟨rfl, ⟨⟩⟩ | ⟨-, hold'⟩ := update_eq_some hk
    · rfl
    · exact absurd hname.symm (hother k v' hold')
    · exact absurd hname (hother j v hold)
    · exact h.unique j k v v' hold hold' hname
  · intro name key hheld hnone
    by_cases hn : name = u.name
    · subst hn
      obtain rfl : u.key = key := by simpa using hheld
      exact ⟨i, by simp⟩
    · rw [Function.update_of_ne hn] at hheld
      obtain ⟨j, hj⟩ := h.granted name key hheld hnone
      have hji : j ≠ i := by
        rintro rfl
        simp [hi] at hj
      exact ⟨j, by rw [Function.update_of_ne hji, hj]⟩
  · intro name key hkey
    have hn : name ≠ u.name := by
      rintro rfl
      simp [hinitial] at hkey
    rw [Function.update_of_ne hn]
    exact h.initial name key hkey

/-- A lock is given back by the party that owes it. -/
theorem free (h : Balanced held₀ held owes) (hi : owes i = some u) :
    Balanced held₀ (Function.update held u.name none) (Function.update owes i none) := by
  have hcases : ∀ j v, Function.update owes i none j = some v → j ≠ i ∧ owes j = some v :=
    fun j v hj => (update_eq_some hj).resolve_left (by simp)
  have hother : ∀ j v, j ≠ i → owes j = some v → v.name ≠ u.name :=
    fun j v hji hj heq => hji (h.unique j i v u hj hi heq)
  refine ⟨?_, ?_, ?_, ?_⟩
  · intro j v hj
    obtain ⟨hji, hold⟩ := hcases j v hj
    rw [Function.update_of_ne (hother j v hji hold)]
    exact h.owed j v hold
  · intro j k v v' hj hk
    exact h.unique j k v v' (hcases j v hj).2 (hcases k v' hk).2
  · intro name key hheld hnone
    by_cases hn : name = u.name
    · simp [hn] at hheld
    · rw [Function.update_of_ne hn] at hheld
      obtain ⟨j, hj⟩ := h.granted name key hheld hnone
      have hji : j ≠ i := by
        rintro rfl
        rw [hi, Option.some.injEq] at hj
        exact hn (congrArg UnlockRequest.name hj).symm
      exact ⟨j, by rw [Function.update_of_ne hji, hj]⟩
  · intro name key hkey
    have hn : name ≠ u.name := by
      rintro rfl
      simp [(h.owed i u hi).2] at hkey
    rw [Function.update_of_ne hn]
    exact h.initial name key hkey

end Balanced

/-! ## The whole -/

/-- `OnTheSpot held q a held'`: the service, with the locks `held`, answers
`a` to the request `q`, and its caller learns it at once. -/
inductive OnTheSpot (held : String → Option String) :
    Request → Answer → (String → Option String) → Prop
  | grants {q reply key} : q.asks = true → held q.name = none → reply.key? = some key →
      OnTheSpot held q (.acquired reply) (Function.update held q.name (some key))
  | declines {q reply} : q.asks = true → reply.key? = none → (∀ text, reply ≠ .crash text) →
      OnTheSpot held q (.acquired reply) held
  | frees {u r} : held u.name = some u.key → r.error = none → r.unlocked = true →
      OnTheSpot held (.unlock u) (.unlocked (.response r)) (Function.update held u.name none)
  | refuses {u r} : held u.name ≠ some u.key →
      OnTheSpot held (.unlock u) (.unlocked (.response r)) held

/-- Parties that use a service which answers on the spot, and the keys of
the locks that are held. -/
structure Custody (β : Type) where
  parties : Nat → Option (Party β)
  held : String → Option String

namespace Custody

variable {β : Type}

/-- No party is there yet; others may hold locks. -/
def start (held : String → Option String) : Custody β := ⟨fun _ => none, held⟩

/-- A step of a party. -/
def commit (w : Custody β) (i : Nat) (s : Step (Party β) (ScopedResult β))
    (held : String → Option String) : Custody β :=
  { parties := Function.update w.parties i (some s.next), held }

/-- What can happen next. -/
inductive Next (w : Custody β) : Custody β → Prop
  | begins {i s} : w.parties i = none → Party.Begins s → Next w (w.commit i s w.held)
  | acts {i p e} (now : Nat) : w.parties i = some p → e.isAnswer = false → e.isOrderly = true →
      Next w (w.commit i (p.step now e) w.held)
  | answers {i p q a held} (now : Nat) : w.parties i = some p → p.life.awaits = some q →
      OnTheSpot w.held q a held → Next w (w.commit i (p.answer now a) held)
  | refreshes {i p reply} (now : Nat) : w.parties i = some p → (∀ text, reply ≠ .crash text) →
      Next w (w.commit i (p.answer now (.refreshed reply)) w.held)
  /-- The call that gives a lock back fails, and can be repeated. -/
  | fails {i p run} (status : Status) (now : Nat) : w.parties i = some p →
      p.life.unlockRun? = some run → run.isWaiting = true → status.isTransient = true →
      run.invocation.policy.isExhausted run.invocation.retries = false →
      Next w (w.commit i (p.answer now (.unlocked (.failure status))) w.held)

/-- What can come of a start with the given locks held. -/
def Reachable (held : String → Option String) : Custody β → Prop :=
  Relation.ReflTransGen Next (start held)

/-- What a party has to give back. -/
def owes (w : Custody β) (i : Nat) : Option UnlockRequest :=
  (w.parties i).bind (·.life.owed?)

end Custody

/-! ## One life -/

/-- The life is consistent, and its renewer did not break down. -/
structure Healthy (l : Lifecycle) : Prop where
  consistent : ∃ autoRefresh g, l.Consistent autoRefresh g
  intact : l.Intact

namespace Healthy

open Lifecycle

variable {now : Nat} {l l' : Lifecycle} {e : Event} {q : Option Request}

theorem step (h : Healthy l) (he : ∀ text, e ≠ .answer (.refreshed (.crash text))) :
    Healthy (l.step now e).next := by
  obtain ⟨autoRefresh, g, hc⟩ := h.consistent
  exact ⟨⟨autoRefresh, _, consistent_move hc (step_move l now e)⟩,
    intact_of_move (step_move l now e) he h.intact⟩

theorem stride (h : Healthy l) {ev : Option Event} (hs : l.Stride now ev l' q)
    (he : ∀ e ∈ ev, ∀ text, e ≠ .answer (.refreshed (.crash text))) : Healthy l' := by
  cases hs with
  | still => exact h
  | plain => exact h.step (he _ rfl)
  | leaving => exact (h.step (he _ rfl)).step (by simp)

/-- What a party does on its own does not change what it owes. -/
theorem owed?_of_own (h : Healthy l) (hanswer : e.isAnswer = false) (ho : e.isOrderly = true) :
    (l.step now e).next.owed? = l.owed? := by
  obtain ⟨autoRefresh, g, hc⟩ := h.consistent
  have hno : ∀ a, e ≠ .answer a := by
    rintro a rfl
    simp [Event.isAnswer] at hanswer
  exact owed?_of_move hc h.intact (step_move l now e) ho
    (grant?_of_event fun reply => hno (.acquired reply)) fun reply => hno (.unlocked reply)

/-- A scope that is left hands over what it owes. -/
theorem owed?_of_stride (h : Healthy l) (hs : l.Stride now (some e) l' q)
    (he : ∀ text, e ≠ .answer (.refreshed (.crash text))) :
    l'.owed? = (l.step now e).next.owed? := by
  cases hs with
  | plain => rfl
  | leaving => exact (h.step he).owed?_of_own rfl rfl

theorem owed?_of_own_stride (h : Healthy l) {ev : Option Event} (hs : l.Stride now ev l' q)
    (hown : ∀ e ∈ ev, e.isAnswer = false ∧ e.isOrderly = true) : l'.owed? = l.owed? := by
  cases ev with
  | none =>
      cases hs with
      | still => rfl
  | some e =>
      obtain ⟨hanswer, ho⟩ := hown e rfl
      rw [h.owed?_of_stride hs (by rintro text rfl; simp [Event.isAnswer] at hanswer),
        h.owed?_of_own hanswer ho]

end Healthy

theorem Healthy.new (policy : RetryPolicy) (autoRefresh : Bool) :
    Healthy (.new policy autoRefresh) :=
  ⟨⟨autoRefresh, none, Lifecycle.consistent_new policy autoRefresh⟩,
    Lifecycle.intact_new policy autoRefresh⟩

/-! ## The invariant -/

namespace Custody

variable {β : Type} {w : Custody β} {held₀ held : String → Option String} {i : Nat} {p : Party β}
  {s : Step (Party β) (ScopedResult β)}

/-- Every life is healthy, and the books balance. -/
structure Kept (held₀ : String → Option String) (w : Custody β) : Prop where
  healthy : ∀ i p, w.parties i = some p → Healthy p.life
  balanced : Balanced held₀ w.held w.owes

theorem owes_of_party (hp : w.parties i = some p) : w.owes i = p.life.owed? := by
  simp [owes, hp]

theorem owes_commit : (w.commit i s held).owes = Function.update w.owes i s.next.life.owed? := by
  funext j
  by_cases hj : j = i
  · subst hj
    simp [owes, commit]
  · simp [owes, commit, hj]

theorem kept_start (held₀ : String → Option String) : Kept held₀ (start held₀ : Custody β) :=
  ⟨by simp [start], .start held₀⟩

theorem Kept.commit (h : Kept held₀ w) (hs : Healthy s.next.life)
    (hb : Balanced held₀ held (Function.update w.owes i s.next.life.owed?)) :
    Kept held₀ (w.commit i s held) := by
  refine ⟨fun j p hp => ?_, by rw [owes_commit]; exact hb⟩
  obtain ⟨rfl, ⟨⟩⟩ | ⟨-, hold⟩ := update_eq_some hp
  · exact hs
  · exact h.healthy j p hold

/-- A step that leaves the table and what is owed as it is. -/
theorem Kept.commit_same (h : Kept held₀ w) (hs : Healthy s.next.life)
    (hsame : s.next.life.owed? = w.owes i) : Kept held₀ (w.commit i s w.held) := by
  refine h.commit hs ?_
  rw [hsame, Function.update_eq_self]
  exact h.balanced

/-- The answer to a request for a lock, or to the call that gives one back. -/
theorem Kept.answers (h : Kept held₀ w) (hp : w.parties i = some p) {q : Request}
    (hq : p.life.awaits = some q) {a : Answer} (ha : OnTheSpot w.held q a held) (now : Nat) :
    Kept held₀ (w.commit i (p.answer now a) held) := by
  have hstride := p.answer_stride now a
  have hhealthy := h.healthy i p hp
  obtain ⟨autoRefresh, g, hc⟩ := hhealthy.consistent
  have howes := owes_of_party hp
  have hm := Lifecycle.step_move p.life now (.answer a)
  cases ha with
  | @grants q reply key hasks hfree hkey =>
      have hnone : w.owes i = none := howes.trans (hc.owed?_of_asks hq hasks)
      obtain ⟨lease, hgrant⟩ := hc.grant?_of_awaits hq hasks hkey now
      refine h.commit (hhealthy.stride hstride (by simp)) ?_
      rw [hhealthy.owed?_of_stride hstride (by simp), Lifecycle.owed?_of_grant hm hgrant]
      exact h.balanced.grant (u := ⟨q.name, key⟩) hfree hnone
  | @declines q reply hasks hkey hcrash =>
      refine h.commit_same (hhealthy.stride hstride (by simp)) ?_
      rw [hhealthy.owed?_of_stride hstride (by simp), howes]
      refine Lifecycle.owed?_of_move hc hhealthy.intact hm ?_ (Lifecycle.grant?_of_key hkey)
        (by simp)
      cases reply with
      | crash text => exact absurd rfl (hcrash text)
      | _ => rfl
  | frees hheld herror hunlocked =>
      obtain ⟨run, hrun, hw, rfl⟩ := hc.unlockRun?_of_awaits hq
      have howed : w.owes i = some run.request := howes.trans (hc.owed?_of_unlockRun hrun)
      refine h.commit (hhealthy.stride hstride (by simp)) ?_
      rw [hhealthy.owed?_of_stride hstride (by simp), Lifecycle.owed?_of_response hm hrun hw]
      exact h.balanced.free howed
  | refuses hheld =>
      -- whoever gives a lock back has its key
      obtain ⟨run, hrun, -, rfl⟩ := hc.unlockRun?_of_awaits hq
      exact absurd (h.balanced.owed i _ (howes.trans (hc.owed?_of_unlockRun hrun))).1 hheld

theorem Kept.next {w' : Custody β} (h : Kept held₀ w) (hn : w.Next w') : Kept held₀ w' := by
  cases hn with
  | begins hi hs =>
      obtain ⟨policy, autoRefresh, now, ev, hown, hstride⟩ := hs.stride
      have hnew := Healthy.new policy autoRefresh
      refine h.commit_same (hnew.stride hstride fun e he =>
        Lifecycle.not_crash_of_orderly (hown e he).2) ?_
      rw [hnew.owed?_of_own_stride hstride hown]
      simp [owes, hi, Lifecycle.new, Lifecycle.owed?, Session.owesUnlock]
  | @acts i p e now hp he ho =>
      obtain ⟨ev, hown, hstride⟩ := p.step_stride now he
      have horderly : ∀ x ∈ ev, x.isAnswer = false ∧ x.isOrderly = true :=
        fun x hx => (hown x hx).imp_right fun himp => himp ho
      have hhealthy := h.healthy i p hp
      refine h.commit_same (hhealthy.stride hstride fun x hx =>
        Lifecycle.not_crash_of_orderly (horderly x hx).2) ?_
      rw [hhealthy.owed?_of_own_stride hstride horderly, owes_of_party hp]
  | answers now hp hq ha => exact h.answers hp hq ha now
  | @refreshes i p reply now hp hcrash =>
      have hstride := p.answer_stride now (.refreshed reply)
      have hhealthy := h.healthy i p hp
      obtain ⟨autoRefresh, g, hc⟩ := hhealthy.consistent
      have ho : (Event.answer (.refreshed reply)).isOrderly = true := by
        cases reply with
        | crash text => exact absurd rfl (hcrash text)
        | _ => rfl
      have hno := Lifecycle.not_crash_of_orderly ho
      refine h.commit_same (hhealthy.stride hstride (by rintro e ⟨⟩; exact hno)) ?_
      rw [hhealthy.owed?_of_stride hstride hno, owes_of_party hp]
      exact Lifecycle.owed?_of_move hc hhealthy.intact (Lifecycle.step_move _ _ _) ho
        (Lifecycle.grant?_of_event (by simp)) (by simp)
  | @fails i p run status now hp hrun hw ht hleft =>
      have hstride := p.answer_stride now (.unlocked (.failure status))
      have hhealthy := h.healthy i p hp
      refine h.commit_same (hhealthy.stride hstride (by simp)) ?_
      rw [hhealthy.owed?_of_stride hstride (by simp), Lifecycle.owed?_of_transient hrun hw ht hleft,
        owes_of_party hp]

theorem kept_of_reachable (h : Reachable held₀ w) : Kept held₀ w := by
  induction h with
  | refl => exact kept_start held₀
  | tail _ hn ih => exact ih.next hn

/-! ## The whole -/

theorem owes_eq_some {u : UnlockRequest} :
    w.owes i = some u ↔ ∃ p, w.parties i = some p ∧ p.life.Owes u := by
  simp only [owes, Option.bind_eq_some_iff, Lifecycle.owed?_eq_some]

/-- Wherever the operations of any number of parties are abandoned, and
however they interleave: each lock that was granted is owed by one party,
and where none of them has anything left to do, the locks that are held are
those that were held at the start. -/
theorem entries_owed (held₀ : String → Option String) (w : Custody β) (h : Reachable held₀ w) :
    (∀ name key, w.held name = some key → held₀ name = none →
      ∃! i, ∃ p, w.parties i = some p ∧ p.life.Owes ⟨name, key⟩) ∧
    ((∀ i p, w.parties i = some p → p.life.IsSettled) → w.held = held₀) := by
  have hb := (kept_of_reachable h).balanced
  refine ⟨fun name key hheld hnone => ?_, fun hsettled => ?_⟩
  · obtain ⟨i, hi⟩ := hb.granted name key hheld hnone
    refine ⟨i, owes_eq_some.1 hi, fun j hj => ?_⟩
    exact hb.unique j i _ _ (owes_eq_some.2 hj) hi rfl
  · have hnobody : ∀ i, w.owes i = none := by
      intro i
      cases hp : w.parties i with
      | none => simp [owes, hp]
      | some p => rw [owes_of_party hp, (hsettled i p hp).owed?]
    funext name
    cases hinitial : held₀ name with
    | some key => exact hb.initial name key hinitial
    | none =>
        cases hheld : w.held name with
        | none => rfl
        | some key =>
            obtain ⟨i, hi⟩ := hb.granted name key hheld hinitial
            simp [hnobody i] at hi

/-- A release that is given up while its call is under way leaves the lock
owed; when the session is dropped it is given back in the background, though
the first call fails. -/
theorem entries_owed_after_abandon :
    ∃ w w' : Custody Unit, Reachable (fun _ => none) w ∧ Reachable (fun _ => none) w' ∧
      (∃ s, w.parties 0 = some (.session (.owned s .resting)) ∧ s.state = .releasing) ∧
      (∃! i, ∃ p, w.parties i = some p ∧ p.life.Owes ⟨"job-42", "key-1"⟩) ∧
      (∃ b, w'.parties 0 = some (.session (.background b)) ∧ b.stage = .done) ∧
      w'.held = fun _ => none := by
  have h : Reachable (fun _ => none) (start (β := Unit) fun _ => none) := .refl
  have h := h.tail (.begins (i := 0) rfl (.session {} true))
  have h := h.tail
    (.acts (i := 0) (e := .session (.acquire ⟨false, "job-42", {}⟩)) 0 rfl rfl rfl)
  have h := h.tail (.answers (i := 0)
    (a := .acquired (.response (.granted "job-42" "key-1"))) 1 rfl rfl (.grants rfl rfl rfl))
  have h := h.tail (.acts (i := 0) (e := .session .release) 2 rfl rfl rfl)
  have h := h.tail (.acts (i := 0) (e := .session .abandon) 3 rfl rfl rfl)
  have h' := h.tail (.acts (i := 0) (e := .session (.drop true)) 4 rfl rfl rfl)
  have h' := h'.tail (.acts (i := 0) (e := .session (.wake .holder)) 5 rfl rfl rfl)
  have h' := h'.tail (.fails (i := 0) { code := .unavailable } 6 rfl rfl rfl rfl rfl)
  have h' := h'.tail (.acts (i := 0) (e := .session (.wake .holder)) 5006 rfl rfl rfl)
  have h' := h'.tail (.answers (i := 0)
    (a := .unlocked (.response { unlocked := true })) 5007 rfl rfl (.frees rfl rfl rfl))
  refine ⟨_, _, h, h', ⟨_, rfl, rfl⟩, (entries_owed _ _ h).1 _ _ rfl rfl, ⟨_, rfl, rfl⟩,
    (entries_owed _ _ h').2 ?_⟩
  intro i p hp
  by_cases hi : i = 0
  · subst hi
    obtain rfl := Option.some.inj hp
    exact rfl
  · simp [commit, start, hi] at hp

end Custody

end DistLock
