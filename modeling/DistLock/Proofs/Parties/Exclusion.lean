import DistLock.Proofs.Parties.Cluster

/-!
# Mutual exclusion

No two bodies run with a locked handle of the same name (`bodies_exclude`).
The invariant (`Cluster.Sound`) joins the service with every life and every
request on its way:

* whoever holds a lock, the service holds it for that one (`Abides.held`);
* a request that gives back a lock comes from one to whom its key was
  issued, and who does not hold it any more (`Abides.unlocks`), however
  late it is served;
* a key that somebody still waits for is the key of its name (`Call.Vouched`).
-/

namespace DistLock

/-! ## What holds of one life -/

/-- `Abides t i sent g l`: the life `l` of the party `i`, to which `g` was
granted and which sent `sent` to give it back, is as the service has it. -/
structure Abides (t : Ledger) (i : Nat) (sent : Set UnlockRequest) (g : Option Grant)
    (l : Lifecycle) : Prop where
  consistent : ∃ autoRefresh, l.Consistent autoRefresh g
  issued : ∀ grant, g = some grant → t.issuedTo grant.key = some i
  held : l.IsHeld → ∀ grant, g = some grant → t.held grant.name = some grant.key
  unlocks : ∀ u ∈ sent, ¬ l.IsHeld ∧ ∃ grant, g = some grant ∧ u = grant.unlockRequest

namespace Abides

open Lifecycle

variable {t : Ledger} {i now : Nat} {sent sent' : Set UnlockRequest} {g : Option Grant}
  {l l' : Lifecycle} {e : Event} {q : Option Request}

theorem mono (h : Abides t i sent g l) (hsub : sent' ⊆ sent) : Abides t i sent' g l :=
  ⟨h.consistent, h.issued, h.held, fun u hu => h.unlocks u (hsub hu)⟩

/-- What is granted is what the service has. -/
def Backed (t : Ledger) (i : Nat) (m : Moment) : Prop :=
  ∀ grant, m.grant? = some grant →
    t.issuedTo grant.key = some i ∧ t.held grant.name = some grant.key

/-- A step leaves a life as the service has it, if what the step grants is
what the service has. -/
theorem step (h : Abides t i sent g l) (hb : Backed t i ⟨now, e, l⟩) :
    ∃ g', Abides t i {u | u ∈ sent ∨ (l.step now e).sent = some (.unlock u)} g'
      (l.step now e).next := by
  obtain ⟨autoRefresh, hc⟩ := h.consistent
  have hm := step_move l now e
  have hnext := consistent_move hc hm
  cases hgrant : Moment.grant? ⟨now, e, l⟩ with
  | none =>
      rw [hgrant, Option.or_none] at hnext
      refine ⟨g, ⟨autoRefresh, hnext⟩, h.issued, ?_, ?_⟩
      · exact fun hheld => h.held (isHeld_of_move hc hm hgrant hheld)
      · rintro u (hu | hu)
        · obtain ⟨hold, hg⟩ := h.unlocks u hu
          exact ⟨fun hheld => hold (isHeld_of_move hc hm hgrant hheld), hg⟩
        · obtain ⟨hg, hheld⟩ := unlock_of_move hc hm hu
          exact ⟨hheld, hg⟩
  | some grant =>
      -- nothing was granted before, so nothing was given back yet
      have hnone : g = none := by
        cases g with
        | none => rfl
        | some _ => exact absurd (hgrant.symm.trans hc.grant?_of_granted) (by simp)
      subst hnone
      rw [hgrant, Option.none_or] at hnext
      obtain ⟨hissued, hheld⟩ := hb grant hgrant
      refine ⟨some grant, ⟨autoRefresh, hnext⟩, ?_, ?_, ?_⟩
      · rintro grant' ⟨⟩
        exact hissued
      · rintro - grant' ⟨⟩
        exact hheld
      · rintro u (hu | hu)
        · obtain ⟨-, grant', hg, -⟩ := h.unlocks u hu
          simp at hg
        · obtain ⟨⟨grant', hg, -⟩, -⟩ := unlock_of_move hc hm hu
          simp at hg

theorem stride (h : Abides t i sent g l) {ev : Option Event} (hs : l.Stride now ev l' q)
    (hb : ∀ e ∈ ev, Backed t i ⟨now, e, l⟩) :
    ∃ g', Abides t i {u | u ∈ sent ∨ q = some (.unlock u)} g' l' := by
  cases hs with
  | still => exact ⟨g, h.mono fun u hu => hu.resolve_right (by simp)⟩
  | plain => exact h.step (hb _ rfl)
  | @leaving e =>
      obtain ⟨g', h'⟩ := h.step (hb _ rfl)
      have hdrop : Backed t i ⟨now, .drop true, (l.step now e).next⟩ := by
        intro grant hgrant
        simp [grant?_of_event] at hgrant
      obtain ⟨g'', h''⟩ := h'.step hdrop
      exact ⟨g'', h''.mono fun u hu => .inl hu⟩

/-- Whoever waits for a lock has sent nothing to give one back. -/
theorem not_mem_of_awaits (h : Abides t i sent g l) {r : Request} (hw : l.awaits = some r)
    (hr : r.asks = true) (u : UnlockRequest) : u ∉ sent := by
  intro hu
  obtain ⟨autoRefresh, hc⟩ := h.consistent
  obtain ⟨-, grant, hg, -⟩ := h.unlocks u hu
  rw [hc.eq_none_of_awaits hw hr] at hg
  simp at hg

/-- What was sent to give a lock back bears a key that was issued
to who sent it. -/
theorem issued_of_mem (h : Abides t i sent g l) {u : UnlockRequest} (hu : u ∈ sent) :
    t.issuedTo u.key = some i := by
  obtain ⟨-, grant, hg, rfl⟩ := h.unlocks u hu
  exact h.issued grant hg

/-- A name that is granted was free, and its key was issued to nobody. -/
theorem grants (h : Abides t i sent g l) {name key : String} (hfree : t.held name = none)
    (hfresh : t.issuedTo key = none) (j : Nat) :
    Abides (t.grant j name key) i sent g l :=
  ⟨h.consistent, fun grant hg => Ledger.issuedTo_grant hfresh (h.issued grant hg) j,
    fun hheld grant hg => Ledger.held_grant hfree (h.held hheld grant hg) j, h.unlocks⟩

/-- A name that is freed is not the name of a lock that is held, if whoever
gives it back does not hold it. -/
theorem frees (h : Abides t i sent g l) {u : UnlockRequest} (hu : t.held u.name = some u.key)
    (hno : t.issuedTo u.key = some i → ¬ l.IsHeld) :
    Abides (t.free u.name) i sent g l := by
  refine ⟨h.consistent, h.issued, fun hheld grant hg => ?_, h.unlocks⟩
  have hname := h.held hheld grant hg
  refine Ledger.held_free hname fun heq => ?_
  rw [heq, hu, Option.some.injEq] at hname
  exact hno (hname ▸ h.issued grant hg) hheld

end Abides

/-! ## What holds of one call -/

namespace Call

variable {i : Nat} {l : Lifecycle} {c : Call} {t : Ledger}

/-- The key in the answer, if there is one, was issued to the caller, and as
long as the caller waits the lock is held with it. -/
def Vouched (t : Ledger) (c : Call) : Prop :=
  ∀ reply key, c.answer = some (.acquired reply) → reply.key? = some key →
    c.request.asks = true ∧ t.issuedTo key = some c.caller ∧
      (c.awaited = true → t.held c.request.name = some key)

theorem Vouched.review (h : c.Vouched t) : (c.review i l).Vouched t := by
  intro reply key ha hkey
  obtain ⟨hasks, hissued, hheld⟩ := h reply key (by simpa using ha) hkey
  simp only [review_request, review_caller]
  exact ⟨hasks, hissued, fun haw => hheld (awaited_of_review haw).1⟩

theorem vouched_of_none (h : c.answer = none) : c.Vouched t := by
  intro reply key ha
  simp [h] at ha

/-- A name that is granted was free, and its key was issued to nobody. -/
theorem Vouched.grants (h : c.Vouched t) {name key : String} (hfree : t.held name = none)
    (hfresh : t.issuedTo key = none) (j : Nat) :
    c.Vouched (t.grant j name key) := by
  intro reply key' ha hkey
  obtain ⟨hasks, hissued, hheld⟩ := h reply key' ha hkey
  exact ⟨hasks, Ledger.issuedTo_grant hfresh hissued j,
    fun haw => Ledger.held_grant hfree (hheld haw) j⟩

/-- A name that is freed is not the name of a lock that somebody waits for. -/
theorem Vouched.frees (h : c.Vouched t) {u : UnlockRequest} (hu : t.held u.name = some u.key)
    (hno : c.awaited = true → c.request.asks = true → t.issuedTo u.key ≠ some c.caller) :
    c.Vouched (t.free u.name) := by
  intro reply key ha hkey
  obtain ⟨hasks, hissued, hheld⟩ := h reply key ha hkey
  refine ⟨hasks, hissued, fun haw => ?_⟩
  have hname := hheld haw
  refine Ledger.held_free hname fun heq => ?_
  rw [heq, hu, Option.some.injEq] at hname
  exact hno haw hasks (hname ▸ hissued)

end Call

namespace Cluster

variable {β : Type} {w : Cluster β} {i k : Nat} {c : Call} {p : Party β} {t : Ledger}

/-! ## The invariant -/

/-- What the party `i` ever sent to give a lock back. -/
def unlocksOf (w : Cluster β) (i : Nat) : Set UnlockRequest :=
  {u | ∃ c ∈ w.calls, c.caller = i ∧ c.request = .unlock u}

/-- What holds of a cluster between two steps. -/
structure Sound (w : Cluster β) : Prop where
  abides : ∀ i p, w.parties i = some p → ∃ g, Abides w.table i (w.unlocksOf i) g p.life
  awaited : ∀ c ∈ w.calls, ∃ p, w.parties c.caller = some p ∧
    (c.awaited = true → c.request.worker = .holder → p.life.awaits = some c.request)
  vouched : ∀ c ∈ w.calls, c.Vouched w.table
  houses : ∀ i p, w.parties i = some p → p.Houses (w.bodies i)
  absent : ∀ i, w.parties i = none → w.bodies i = none

theorem sound_start (table : Ledger) : (start table : Cluster β).Sound :=
  ⟨by simp [start], by simp [start], by simp [start], by simp [start], by simp [start]⟩

/-! ### A step of a party -/

theorem mem_calls_commit {s : Step (Party β) (ScopedResult β)}
    (hc : c ∈ (w.commit i s).calls) :
    ∃ c₀, c = c₀.review i s.next.life ∧
      (c₀ ∈ w.calls ∨ ∃ q, s.sent = some q ∧ c₀ = .ofRequest i q) := by
  simp only [commit, List.mem_map, List.mem_append, Option.mem_toList, Option.map_eq_some_iff]
    at hc
  obtain ⟨c₀, hmem, rfl⟩ := hc
  refine ⟨c₀, rfl, hmem.imp_right ?_⟩
  rintro ⟨q, hq, rfl⟩
  exact ⟨q, hq, rfl⟩

theorem unlocksOf_commit {s : Step (Party β) (ScopedResult β)} (j : Nat) :
    (w.commit i s).unlocksOf j ⊆
      {u | u ∈ w.unlocksOf j ∨ (j = i ∧ s.sent = some (.unlock u))} := by
  rintro u ⟨c, hc, rfl, hu⟩
  obtain ⟨c₀, rfl, hold | ⟨q, hq, rfl⟩⟩ := mem_calls_commit hc
  · exact .inl ⟨c₀, hold, by simp, by simpa using hu⟩
  · simp only [Call.review_request, Call.ofRequest] at hu
    exact .inr ⟨by simp [Call.ofRequest], hu ▸ hq⟩

/-- A step of a party keeps the invariant, if what it is granted is what the
service has. The life `l` is the one that the step finds. -/
theorem Sound.commit (h : w.Sound) {s : Step (Party β) (ScopedResult β)} {now : Nat}
    {l : Lifecycle} {ev : Option Event} (hs : l.Stride now ev s.next.life s.sent)
    (habides : ∃ g, Abides w.table i (w.unlocksOf i) g l)
    (hawaited : ∀ c ∈ w.calls, c.caller = i → c.awaited = true → c.request.worker = .holder →
      l.awaits = some c.request)
    (hbacked : ∀ e ∈ ev, Abides.Backed w.table i ⟨now, e, l⟩)
    (hhouses : s.next.Houses (bodyAfter (w.bodies i) s)) : (w.commit i s).Sound := by
  refine ⟨?_, ?_, ?_, ?_, ?_⟩
  · intro j p hp
    obtain ⟨rfl, ⟨⟩⟩ | ⟨hj, hold⟩ := update_eq_some hp
    · obtain ⟨g, hg⟩ := habides
      obtain ⟨g', hg'⟩ := hg.stride hs hbacked
      exact ⟨g', hg'.mono fun u hu => (unlocksOf_commit j hu).imp_right And.right⟩
    · obtain ⟨g, hg⟩ := h.abides j p hold
      exact ⟨g, hg.mono fun u hu => (unlocksOf_commit j hu).resolve_right fun hu => hj hu.1⟩
  · intro c hc
    obtain ⟨c₀, rfl, hmem⟩ := mem_calls_commit hc
    by_cases hi : c₀.caller = i
    · refine ⟨s.next, by simp [Cluster.commit, hi], fun haw hworker => ?_⟩
      simp only [Call.review_request] at hworker ⊢
      obtain ⟨haw, hwait⟩ := Call.awaited_of_review haw
      have hwaiting := hwait hi
      rw [hworker] at hwaiting
      refine Lifecycle.awaits_of_isWaiting ?_ hwaiting
      rcases hmem with hold | ⟨q, hq, rfl⟩
      · exact hs.awaits (hawaited c₀ hold hi haw hworker)
      · exact hs.awaits_of_sent hq hworker
    · have hold : c₀ ∈ w.calls := by
        refine hmem.resolve_right ?_
        rintro ⟨q, -, rfl⟩
        exact hi rfl
      obtain ⟨p, hp, hwait⟩ := h.awaited c₀ hold
      refine ⟨p, by simpa [Cluster.commit, hi] using hp, fun haw => ?_⟩
      simpa using hwait (Call.awaited_of_review haw).1
  · intro c hc
    obtain ⟨c₀, rfl, hold | ⟨q, -, rfl⟩⟩ := mem_calls_commit hc
    · exact (h.vouched c₀ hold).review
    · exact Call.vouched_of_none (by simp [Call.ofRequest])
  · intro j p hp
    obtain ⟨rfl, ⟨⟩⟩ | ⟨hj, hold⟩ := update_eq_some hp
    · simpa [Cluster.commit] using hhouses
    · simpa [Cluster.commit, hj] using h.houses j p hold
  · intro j hj
    have hne : j ≠ i := by
      rintro rfl
      simp [Cluster.commit] at hj
    simp only [Cluster.commit, Function.update_of_ne hne] at hj ⊢
    exact h.absent j hj

/-! ### A step of the service -/

/-- Another answer to a call, or that nobody waits for it, leaves what
was sent as it is. -/
theorem unlocksOf_set (hk : w.calls[k]? = some c) {c' : Call} (hcaller : c'.caller = c.caller)
    (hrequest : c'.request = c.request) (t : Ledger) (j : Nat) :
    Cluster.unlocksOf { w with calls := w.calls.set k c', table := t } j ⊆ w.unlocksOf j := by
  rintro u ⟨c₁, hc₁, rfl, hu⟩
  rcases List.mem_or_eq_of_mem_set hc₁ with hold | rfl
  · exact ⟨c₁, hold, rfl, hu⟩
  · exact ⟨c, List.mem_of_getElem? hk, hcaller.symm, hrequest ▸ hu⟩

/-- A change of one call and of the table keeps the invariant, if all that
the table is to vouch for is as the new table has it. -/
theorem Sound.set (h : w.Sound) (hk : w.calls[k]? = some c) {c' : Call}
    (hcaller : c'.caller = c.caller) (hrequest : c'.request = c.request)
    (hawaited : c'.awaited = true → c.awaited = true)
    (habides : ∀ i p g, w.parties i = some p → Abides w.table i (w.unlocksOf i) g p.life →
      Abides t i (w.unlocksOf i) g p.life)
    (hold : ∀ c₁ ∈ w.calls, c₁.Vouched t) (hnew : c'.Vouched t) :
    Cluster.Sound { w with calls := w.calls.set k c', table := t } := by
  refine ⟨?_, ?_, ?_, h.houses, h.absent⟩
  · intro i p hp
    obtain ⟨g, hg⟩ := h.abides i p hp
    exact ⟨g, (habides i p g hp hg).mono (unlocksOf_set hk hcaller hrequest t i)⟩
  · intro c₁ hc₁
    rcases List.mem_or_eq_of_mem_set hc₁ with hmem | rfl
    · exact h.awaited c₁ hmem
    · rw [hcaller, hrequest]
      obtain ⟨p, hp, hwait⟩ := h.awaited c (List.mem_of_getElem? hk)
      exact ⟨p, hp, fun haw => hwait (hawaited haw)⟩
  · intro c₁ hc₁
    rcases List.mem_or_eq_of_mem_set hc₁ with hmem | rfl
    · exact hold c₁ hmem
    · exact hnew

theorem Sound.conclude (h : w.Sound) (hk : w.calls[k]? = some c) : (w.conclude k c).Sound := by
  have hvouched := h.vouched c (List.mem_of_getElem? hk)
  refine h.set hk rfl rfl (by simp) (fun _ _ _ _ => id) h.vouched fun reply key ha hkey => ?_
  obtain ⟨hasks, hissued, -⟩ := hvouched reply key ha hkey
  exact ⟨hasks, hissued, by simp⟩

/-- Whatever the service does with a request, it keeps the invariant. -/
theorem Sound.serves (h : w.Sound) (hk : w.calls[k]? = some c) {a : Answer}
    (hs : w.table.Serves c.caller c.request a t) : (w.served k c a t).Sound := by
  have hmem := List.mem_of_getElem? hk
  generalize hq : c.request = q at hs
  cases hs with
  | grants hasks hfree hfresh hreply =>
      refine h.set hk rfl rfl id (fun _ _ _ _ hg => hg.grants hfree hfresh _)
        (fun c₁ hc₁ => (h.vouched c₁ hc₁).grants hfree hfresh _) ?_
      rintro reply key' ⟨⟩ hkey
      obtain rfl := Option.some.inj (hkey.symm.trans (hreply.resolve_left (by simp [hkey])))
      simp only [hq]
      exact ⟨hasks, by simp [Ledger.grant], fun _ => by simp [Ledger.grant]⟩
  | declines hasks hreply =>
      refine h.set hk rfl rfl id (fun _ _ _ _ => id) h.vouched ?_
      rintro reply key ⟨⟩ hkey
      simp [hreply] at hkey
  | refreshes | keeps =>
      refine h.set hk rfl rfl id (fun _ _ _ _ => id) h.vouched ?_
      rintro reply key ⟨⟩
  | @frees u reply hu =>
      -- the lock that is given back is neither held nor waited for by who
      -- gives it back
      have hsent : u ∈ w.unlocksOf c.caller := ⟨c, hmem, rfl, hq⟩
      obtain ⟨p, hp, -⟩ := h.awaited c hmem
      obtain ⟨g, hg⟩ := h.abides c.caller p hp
      have hissued := hg.issued_of_mem hsent
      refine h.set hk rfl rfl id ?_ ?_ ?_
      · intro i p' g' hp' hg'
        refine hg'.frees hu fun hi => ?_
        obtain rfl : c.caller = i := Option.some.inj (hissued.symm.trans hi)
        obtain rfl := Option.some.inj (hp.symm.trans hp')
        exact (hg.unlocks u hsent).1
      · intro c₁ hc₁
        refine (h.vouched c₁ hc₁).frees hu fun haw hasks hi => ?_
        have hcaller : c.caller = c₁.caller := Option.some.inj (hissued.symm.trans hi)
        obtain ⟨p₁, hp₁, hwait⟩ := h.awaited c₁ hc₁
        rw [← hcaller] at hp₁
        obtain rfl := Option.some.inj (hp.symm.trans hp₁)
        exact hg.not_mem_of_awaits (hwait haw (Request.worker_of_asks hasks)) hasks u hsent
      · rintro reply' key ⟨⟩

/-! ### Every step -/

/-- What a party does on its own grants nothing. -/
theorem backed_of_not_answer {now : Nat} {l : Lifecycle} {e : Event} (he : e.isAnswer = false) :
    Abides.Backed t i ⟨now, e, l⟩ := by
  intro grant hgrant
  rw [Lifecycle.grant?_of_event (by rintro reply rfl; simp [Event.isAnswer] at he)] at hgrant
  simp at hgrant

theorem Sound.awaits (h : w.Sound) (hp : w.parties i = some p) :
    ∀ c ∈ w.calls, c.caller = i → c.awaited = true → c.request.worker = .holder →
      p.life.awaits = some c.request := by
  rintro c hc rfl haw hworker
  obtain ⟨p', hp', hwait⟩ := h.awaited c hc
  obtain rfl := Option.some.inj (hp.symm.trans hp')
  exact hwait haw hworker

/-- The answer that is delivered to a caller who waits grants what
the service has. -/
theorem Sound.backed_of_vouched (h : w.Sound) (hc : c ∈ w.calls) (haw : c.awaited = true)
    {a : Answer} (ha : c.answer = some a) (hp : w.parties c.caller = some p) (now : Nat) :
    Abides.Backed w.table c.caller ⟨now, .answer a, p.life⟩ := by
  intro grant hgrant
  obtain ⟨s, acquisition, run, reply, key, hl, he, -, hkey, rfl⟩ :=
    Lifecycle.grant?_eq_some hgrant
  obtain rfl := Event.answer.inj he
  obtain ⟨hasks, hissued, hheld⟩ := h.vouched c hc reply key ha hkey
  -- the caller waits for this very call, so the name is the one that was asked for
  have hawaits := h.awaits hp c hc rfl haw (Request.worker_of_asks hasks)
  obtain ⟨g, ⟨autoRefresh, hconsistent⟩, -⟩ := h.abides c.caller p hp
  obtain ⟨s', acquisition', run', hl', -, hreq⟩ := hconsistent.acquiring_of_awaits hawaits hasks
  rw [hl] at hl'
  simp only [Lifecycle.owned.injEq, Activity.acquiring.injEq] at hl'
  obtain ⟨-, rfl, -⟩ := hl'
  have hname := hheld haw
  rw [hreq, Acquisition.request_name] at hname
  exact ⟨hissued, hname⟩

theorem backed_of_failure {now : Nat} {l : Lifecycle} (f : Failure) (q : Request) :
    Abides.Backed t i ⟨now, .answer (f.answer q), l⟩ := by
  intro grant hgrant
  obtain ⟨s, acquisition, run, reply, key, -, he, -, hkey, -⟩ := Lifecycle.grant?_eq_some hgrant
  have hreply := Event.answer.inj he
  cases q <;> cases f <;> simp [Failure.answer] at hreply <;> subst hreply <;>
    simp [Failure.reply, Reply.key?, Reply.outcome] at hkey

theorem Sound.next {w' : Cluster β} (h : w.Sound) (hn : w.Next w') : w'.Sound := by
  cases hn with
  | @begins i s hi hs =>
      obtain ⟨policy, autoRefresh, now, ev, hown, hstride⟩ := hs.stride
      -- nobody has called for a party that is not there yet
      have hnobody : ∀ c ∈ w.calls, c.caller ≠ i := by
        rintro c hc rfl
        obtain ⟨p, hp, -⟩ := h.awaited c hc
        simp [hi] at hp
      refine h.commit hstride ⟨none, ⟨autoRefresh, Lifecycle.consistent_new policy autoRefresh⟩,
        by simp, by simp, ?_⟩ ?_ (fun e he => backed_of_not_answer (hown e he).1) hs.houses
      · rintro u ⟨c, hc, hcaller, -⟩
        exact absurd hcaller (hnobody c hc)
      · exact fun c hc hcaller => absurd hcaller (hnobody c hc)
  | @acts i p e now hp he =>
      obtain ⟨ev, hown, hstride⟩ := p.step_stride now he
      exact h.commit hstride (h.abides i p hp) (h.awaits hp)
        (fun x hx => backed_of_not_answer (hown x hx).1)
        (Party.houses_step (h.houses i p hp) now e)
  | serves hk _ hs => exact h.serves hk hs
  | @delivers k c a p now hk haw ha hp =>
      have h₁ := h.conclude hk
      exact h₁.commit (p.answer_stride now a) (h₁.abides c.caller p hp) (h₁.awaits hp)
        (by rintro e ⟨⟩; exact h.backed_of_vouched (List.mem_of_getElem? hk) haw ha hp now)
        (Party.houses_answer (h.houses c.caller p hp) now a)
  | @fails k c p f now hk haw hp =>
      have h₁ := h.conclude hk
      exact h₁.commit (p.answer_stride now _) (h₁.abides c.caller p hp) (h₁.awaits hp)
        (by rintro e ⟨⟩; exact backed_of_failure f c.request)
        (Party.houses_answer (h.houses c.caller p hp) now _)

theorem sound_of_reachable {table : Ledger} (h : Reachable table w) : w.Sound := by
  induction h with
  | refl => exact sound_start table
  | tail _ hn ih => exact ih.next hn

/-! ## The whole -/

/-- A body that runs with a locked handle runs while the service holds its
lock, with a key that was issued to it. -/
theorem Sound.held_of_body (h : w.Sound) {x : LockHandle} (hx : w.bodies i = some x)
    (hlocked : x.locked = true) :
    ∃ key, w.table.held x.name = some key ∧ w.table.issuedTo key = some i := by
  cases hp : w.parties i with
  | none => simp [h.absent i hp] at hx
  | some p =>
      have hhouses := h.houses i p hp
      unfold Party.Houses at hhouses
      split at hhouses
      · obtain ⟨y, hy, s, hl, hst, hs⟩ := hhouses
        obtain rfl := Option.some.inj (hx.symm.trans hy)
        obtain ⟨g, hg⟩ := h.abides i p hp
        obtain ⟨autoRefresh, hc⟩ := hg.consistent
        rw [hl] at hc
        rcases hst with hst | hst
        · obtain ⟨grant, hgrant, hshow⟩ := hc.shows_of_isHeld hst hs
          have hheld : p.life.IsHeld := by
            rw [hl]
            exact hst
          exact ⟨grant.key, hshow.name ▸ hg.held hheld grant hgrant, hg.issued grant hgrant⟩
        · simp [(hc.hides_of_notHeld hst hs).locked] at hlocked
      · simp [hhouses] at hx

/-- However the steps of parties and service interleave, whatever is lost or
comes late, and wherever a scope is abandoned: no two bodies run with a
locked handle of the same name. -/
theorem bodies_exclude (table : Ledger) (w : Cluster β) (h : Reachable table w) (i j : Nat)
    (x y : LockHandle) (hi : w.bodies i = some x) (hj : w.bodies j = some y)
    (hx : x.locked = true) (hy : y.locked = true) (hname : x.name = y.name) : i = j := by
  have hsound := sound_of_reachable h
  obtain ⟨key, hheld, hissued⟩ := hsound.held_of_body hi hx
  obtain ⟨key', hheld', hissued'⟩ := hsound.held_of_body hj hy
  rw [← hname, hheld, Option.some.injEq] at hheld'
  rw [← hheld', hissued, Option.some.injEq] at hissued'
  exact hissued'

/-- A scope is left, but the answer to the return of its lock is lost; by
the time the second request arrives, another body runs with the lock. -/
theorem bodies_exclude_late_unlock :
    ∃ w : Cluster Unit, Reachable ⟨fun _ => none, fun _ => none⟩ w ∧
      w.bodies 1 = some (.held "job-42" "key-2" 9000) ∧
      ∀ j y, w.bodies j = some y → y.locked = true → "job-42" = y.name → 1 = j := by
  have h : Reachable ⟨fun _ => none, fun _ => none⟩
      (start (β := Unit) ⟨fun _ => none, fun _ => none⟩) := .refl
  -- the first scope enters and is left
  have h := h.tail (.begins (i := 0) rfl (.scope {} true ⟨false, "job-42", {}⟩ 0))
  have h := h.tail (.serves (k := 0) (a := .acquired (.response (.granted "job-42" "key-1")))
    rfl rfl (.grants rfl rfl rfl (.inr rfl)))
  have h := h.tail (.delivers (k := 0) 1 rfl rfl rfl rfl)
  have h := h.tail (.acts (i := 0) (e := .scope (.bodyReturned ())) 2 rfl rfl)
  -- its lock is taken back, but it does not learn of it and asks again
  have h := h.tail (.serves (k := 1) (a := .unlocked (.response { unlocked := true }))
    rfl rfl (.frees rfl))
  have h := h.tail (.fails (k := 1) (.unanswered { code := .unavailable }) 3 rfl rfl rfl)
  have h := h.tail (.acts (i := 0) (e := .scope (.wake .holder)) 5003 rfl rfl)
  -- the second scope enters before the service sees that
  have h := h.tail (.begins (i := 1) rfl (.scope {} true ⟨false, "job-42", {}⟩ 8000))
  have h := h.tail (.serves (k := 3) (a := .acquired (.response (.granted "job-42" "key-2")))
    rfl rfl (.grants rfl (by decide) (by decide) (.inr rfl)))
  have h := h.tail (.delivers (k := 3) 9000 rfl rfl rfl rfl)
  have h := h.tail (.serves (k := 2) (a := .unlocked (.response {})) rfl rfl .keeps)
  exact ⟨_, h, rfl, fun j y hj hy hname => bodies_exclude _ _ h 1 j _ y rfl hj rfl hy hname⟩

end Cluster

end DistLock
