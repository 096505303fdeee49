import DistLock.Proofs.Lifecycle.Confinement
import DistLock.Proofs.Parties.Callers

/-!
# Requests say what they are about

* A wish for a lock and a call without a session are looked at before
  anything is sent, so every request has a name
  (`Caller.soundStep_opening`).
* The key of a session comes from the response that granted its lock, and
  nobody looks at it: a request carries the empty key if that response did,
  and not otherwise (`requests_named`, `empty_key_sent`).
-/

namespace DistLock

/-! ## One life -/

namespace Lifecycle

variable {now : Nat} {l l' : Lifecycle} {e : Event} {step : Step Lifecycle OwnerResult}
  {q : Request} {heard heard' : String → Prop}

/-- What was granted has a name, and a key that was heard. -/
def Sound (heard : String → Prop) (l : Lifecycle) : Prop :=
  ∃ autoRefresh g, Consistent autoRefresh g l ∧ Served g l ∧
    ∀ grant, g = some grant → grant.name ≠ "" ∧ heard grant.key

theorem sound_new (policy : RetryPolicy) (autoRefresh : Bool) :
    Sound heard (new policy autoRefresh) := by
  refine ⟨autoRefresh, none, consistent_new policy autoRefresh, ?_, by simp⟩
  intro r hr
  cases hr

theorem Sound.mono (h : Sound heard l) (hh : ∀ key, heard key → heard' key) :
    Sound heard' l := by
  obtain ⟨autoRefresh, g, hc, hserved, hg⟩ := h
  exact ⟨autoRefresh, g, hc, hserved, fun grant hgrant => (hg grant hgrant).imp_right (hh _)⟩

theorem Sound.next (h : Sound heard l) (now : Nat)
    (hh : ∀ reply key, e = .answer (.acquired reply) → reply.key? = some key → heard key) :
    Sound heard (l.step now e).next := by
  obtain ⟨autoRefresh, g, hc, hserved, hg⟩ := h
  have hm := step_move l now e
  refine ⟨autoRefresh, _, consistent_move hc hm, served_of_move hc hm hserved, ?_⟩
  intro grant hgrant
  rcases Option.or_eq_some_iff.1 hgrant with hold | ⟨-, hnew⟩
  · exact hg grant hold
  · obtain ⟨s, a, run, reply, key, rfl, he, -, hkey, rfl⟩ := grant?_eq_some hnew
    exact ⟨hc.activity_fits.2.1, hh reply key he hkey⟩

/-- What a session sends has a name, and if it has a key, it is one
that was heard. -/
theorem Sound.sent (h : Sound heard l) (hm : Move now l e step) (hq : step.sent = some q) :
    q.name ≠ "" ∧ ∀ key, q.key? = some key → heard key := by
  obtain ⟨autoRefresh, g, hc, hserved, hg⟩ := h
  cases q with
  | refreshLock u =>
      obtain ⟨grant, hgrant, rfl⟩ := refreshRequest_of_sent hc hserved hm hq
      exact ⟨(hg grant hgrant).1, fun key hkey => Option.some.inj hkey ▸ (hg grant hgrant).2⟩
  | unlock u =>
      obtain ⟨⟨grant, hgrant, rfl⟩, -⟩ := (sends_of_move hc hm hq).unlock
      exact ⟨(hg grant hgrant).1, fun key hkey => Option.some.inj hkey ▸ (hg grant hgrant).2⟩
  | lock r | tryLock r =>
      refine ⟨?_, fun key hkey => by cases hkey⟩
      obtain ⟨s, a, run, hl, hreq⟩ := (sends_of_move hc hm hq).asks rfl
      have hafter := consistent_move hc hm
      rw [hl] at hafter
      rw [hreq, a.request_name]
      exact hafter.activity_fits.2.1

/-- What a party sends with a step, it knows from before the step. -/
theorem Stride.sound {ev : Option Event} {o : Option Request} (hs : Stride now l ev l' o)
    (h : Sound heard l) (hmono : ∀ key, heard key → heard' key)
    (hh : ∀ reply key, ev = some (.answer (.acquired reply)) → reply.key? = some key →
      heard' key) :
    Sound heard' l' ∧ ∀ q, o = some q → q.name ≠ "" ∧ ∀ key, q.key? = some key → heard key := by
  cases hs with
  | still => exact ⟨h.mono hmono, by simp⟩
  | @plain e =>
      have hnext := (h.mono hmono).next now fun reply key he =>
        hh reply key (congrArg some he)
      exact ⟨hnext, fun q hq => h.sent (step_move l now e) hq⟩
  | @leaving e =>
      have hnext := (h.mono hmono).next now fun reply key he =>
        hh reply key (congrArg some he)
      exact ⟨hnext.next now (by simp), fun q hq => h.sent (step_move l now e) hq⟩

end Lifecycle

/-! ## One caller -/

namespace DirectCall

variable {d : DirectCall}

/-- The call under way has a name and a key. -/
def IsNamed : DirectCall → Prop
  | .refresh run => run.request.name ≠ "" ∧ run.request.key ≠ ""
  | .unlock run => run.request.name ≠ "" ∧ run.request.key ≠ ""
  | .over => True

/-- A call that is repeated says the same again. -/
theorem IsNamed.wake (h : d.IsNamed) (now : Nat) :
    (d.wake now).next.IsNamed ∧
      ∀ q, (d.wake now).sent = some q → q.name ≠ "" ∧ ∀ key, q.key? = some key → key ≠ "" := by
  cases d with
  | refresh run | unlock run =>
      simp only [DirectCall.wake]
      cases hr : run.resume? now with
      | none => exact ⟨h, by simp [Step.stay]⟩
      | some run' =>
          have hnamed : run'.request.name ≠ "" ∧ run'.request.key ≠ "" := by
            rw [(Run.resume?_eq_some hr).2.1]
            exact h
          refine ⟨hnamed, fun q hq => ?_⟩
          obtain rfl := Option.some.inj hq
          refine ⟨hnamed.1, fun key hkey => ?_⟩
          obtain rfl := Option.some.inj hkey
          exact hnamed.2
  | _ => exact ⟨trivial, by simp [DirectCall.wake, Step.stay]⟩

theorem IsNamed.answer (h : d.IsNamed) (now : Nat) (a : Answer) :
    (d.answer now a).next.IsNamed ∧ (d.answer now a).sent = none := by
  unfold DirectCall.answer
  split
  · exact ⟨h, rfl⟩
  split
  · split
    · rename_i hp
      refine ⟨?_, rfl⟩
      simp only [IsNamed]
      rw [(Run.answer_pausing hp).1]
      exact h
    · exact ⟨trivial, rfl⟩
  · split
    · rename_i hp
      refine ⟨?_, rfl⟩
      simp only [IsNamed]
      rw [(Run.answer_pausing hp).1]
      exact h
    · exact ⟨trivial, rfl⟩
  · exact ⟨h, rfl⟩

end DirectCall

namespace Caller

variable {β : Type} {heard heard' : String → Prop} {c : Caller β} {now : Nat}

/-- A call without a session. -/
def isDirect : Caller β → Bool
  | .direct _ => true
  | _ => false

/-- What the caller is about has a name, and a key that was heard; a call
without a session has a key that is not empty. -/
def Sound (heard : String → Prop) : Caller β → Prop
  | .session life => life.Sound heard
  | .scope s => s.life.Sound heard
  | .direct d => d.IsNamed

/-- A step after which `heard'` was heard, and before it only `heard`. -/
def SoundStep (heard heard' : String → Prop) (s : Step (Caller β) (CallerResult β)) : Prop :=
  s.next.Sound heard' ∧
    ∀ q, s.sent = some q → q.name ≠ "" ∧
      ∀ key, q.key? = some key → key ≠ "" ∨ (s.next.isDirect = false ∧ heard key)

theorem Sound.mono (h : c.Sound heard) (hmono : ∀ key, heard key → heard' key) :
    c.Sound heard' := by
  cases c with
  | session life => exact Lifecycle.Sound.mono h hmono
  | scope s => exact Lifecycle.Sound.mono h hmono
  | direct d => exact h

theorem Sound.stay (h : c.Sound heard) (hmono : ∀ key, heard key → heard' key) :
    SoundStep heard heard' (.stay c) := ⟨h.mono hmono, by simp [Step.stay]⟩

theorem soundStep_session {l : Lifecycle} (h : l.Sound heard)
    (hmono : ∀ key, heard key → heard' key) {e : Event}
    (hh : ∀ reply key, e = .answer (.acquired reply) → reply.key? = some key → heard' key) :
    SoundStep (β := β) heard heard' (ofSession (l.step now e)) := by
  refine ⟨(h.mono hmono).next now hh, fun q hq => ?_⟩
  obtain ⟨hname, hkeys⟩ := h.sent (Lifecycle.step_move l now e) hq
  exact ⟨hname, fun key hkey => .inr ⟨rfl, hkeys key hkey⟩⟩

theorem soundStep_scope {l : Lifecycle} (h : l.Sound heard)
    (hmono : ∀ key, heard key → heard' key) {ev : Option Event}
    {s : Step (Scoped β) (ScopedResult β)} (hs : l.Stride now ev s.next.life s.sent)
    (hh : ∀ reply key, ev = some (.answer (.acquired reply)) → reply.key? = some key →
      heard' key) : SoundStep heard heard' (ofScope s) := by
  obtain ⟨hnext, hsent⟩ := hs.sound h hmono hh
  refine ⟨hnext, fun q hq => ?_⟩
  obtain ⟨hname, hkeys⟩ := hsent q hq
  exact ⟨hname, fun key hkey => .inr ⟨rfl, hkeys key hkey⟩⟩

theorem Sound.answer (h : c.Sound heard) (hmono : ∀ key, heard key → heard' key) {a : Answer}
    (hh : ∀ reply key, a = .acquired reply → reply.key? = some key → heard' key) :
    SoundStep heard heard' (c.answer now a) := by
  cases c with
  | session life =>
      exact soundStep_session h hmono fun reply key he => hh reply key (Event.answer.inj he)
  | scope s =>
      exact soundStep_scope h hmono (Scoped.follow_stride s.stage) fun reply key he =>
        hh reply key (Event.answer.inj (Option.some.inj he))
  | direct d =>
      obtain ⟨hnext, hsent⟩ := DirectCall.IsNamed.answer h now a
      refine ⟨hnext, fun q hq => ?_⟩
      replace hq : (d.answer now a).sent = some q := hq
      simp [hsent] at hq

theorem Sound.step (h : c.Sound heard) (hmono : ∀ key, heard key → heard' key)
    {e : CallerEvent β}
    (hh : ∀ reply key, e = .answer (.acquired reply) → reply.key? = some key → heard' key) :
    SoundStep heard heard' (c.step now e) := by
  cases e with
  | answer a =>
      exact h.answer hmono fun reply key ha => hh reply key (congrArg CallerEvent.answer ha)
  | session e =>
      cases c with
      | session life =>
          cases he : e.isAnswer with
          | true =>
              simp only [Caller.step, he, if_true]
              exact h.stay hmono
          | false =>
              simp only [Caller.step, he, Bool.false_eq_true, if_false]
              refine soundStep_session h hmono ?_
              rintro reply key rfl
              simp [Event.isAnswer] at he
      | _ => exact h.stay hmono
  | scope e =>
      cases c with
      | scope s =>
          cases he : e.isAnswer with
          | true =>
              simp only [Caller.step, he, if_true]
              exact h.stay hmono
          | false =>
              simp only [Caller.step, he, Bool.false_eq_true, if_false]
              have hno : ∀ a, e ≠ .answer a := by
                rintro a rfl
                simp [ScopedEvent.isAnswer] at he
              obtain ⟨ev, hown, hstride⟩ := s.step_stride now e hno
              refine soundStep_scope h hmono hstride ?_
              rintro reply key rfl
              simpa [Event.isAnswer] using (hown _ rfl).1
      | _ => exact h.stay hmono
  | wake =>
      cases c with
      | direct d =>
          obtain ⟨hnext, hsent⟩ := DirectCall.IsNamed.wake h now
          refine ⟨hnext, fun q hq => ?_⟩
          obtain ⟨hname, hkeys⟩ := hsent q hq
          exact ⟨hname, fun key hkey => .inl (hkeys key hkey)⟩
      | _ => exact h.stay hmono
  | abandon =>
      cases c with
      | direct d => exact ⟨trivial, by simp [Caller.step, Step.stay]⟩
      | _ => exact h.stay hmono

/-- A call without a session is begun only with a name and a key. -/
theorem soundStep_direct {d : DirectCall} {q : Request} (hd : d.IsNamed) (hname : q.name ≠ "")
    (hkeys : ∀ key, q.key? = some key → key ≠ "") :
    SoundStep (β := β) heard heard' (ofDirect { next := d, sent := some q }) := by
  refine ⟨hd, fun q' hq => ?_⟩
  obtain rfl := Option.some.inj hq
  exact ⟨hname, fun key hkey => .inl (hkeys key hkey)⟩

theorem soundStep_opening (o : Opening) (client : Client) :
    SoundStep (β := β) heard heard' (o.step client now) := by
  cases o with
  | session => exact ⟨Lifecycle.sound_new _ _, by simp [Opening.step, Step.stay]⟩
  | scope a =>
      have hnew : Lifecycle.Sound (fun _ => False) client.session :=
        Lifecycle.sound_new client.policy client.autoRefresh
      have hs : SoundStep (β := β) (fun _ => False) heard' ((Opening.scope a).step client now) :=
        soundStep_scope hnew (fun _ hno => hno.elim) (Scoped.follow_stride .entering) (by simp)
      exact ⟨hs.1, fun q hq => (hs.2 q hq).imp_right fun hkeys key hkey =>
        .inl ((hkeys key hkey).resolve_right fun hno => hno.2.elim)⟩
  | refresh name key lease =>
      simp only [Opening.step, Client.refreshLock]
      split
      · exact ⟨trivial, by simp [ofDirect, Step.lift, Step.returning]⟩
      · rename_i hempty
        rw [not_or] at hempty
        exact soundStep_direct hempty hempty.1 fun key' hkey => Option.some.inj hkey ▸ hempty.2
  | unlock name key =>
      simp only [Opening.step, Client.unlock]
      split
      · exact ⟨trivial, by simp [ofDirect, Step.lift, Step.returning]⟩
      · rename_i hempty
        rw [not_or] at hempty
        exact soundStep_direct hempty hempty.1 fun key' hkey => Option.some.inj hkey ▸ hempty.2

end Caller

/-! ## Callers beside each other -/

namespace Callers

variable {β : Type} {ds : List (Deed β)} {d : Deed β}

/-- In the course of a run, a response came to the caller that grants a
lock with the key. -/
def GrantedKey (ds : List (Deed β)) (who : Nat) (key : String) : Prop :=
  ∃ now response, ⟨who, now, .meets (.answer (.acquired (.response response)))⟩ ∈ ds ∧
    response.error = none ∧ response.locked = true ∧ response.key = key

theorem GrantedKey.concat {who : Nat} {key : String} (h : GrantedKey ds who key) :
    GrantedKey (ds ++ [d]) who key := by
  obtain ⟨now, response, hmem, hrest⟩ := h
  exact ⟨now, response, List.mem_append_left _ hmem, hrest⟩

/-- Where every caller is sound, so is what the next deed does. -/
theorem soundStep_of_deed {w : Callers β} {s : Step (Caller β) (CallerResult β)}
    (h : ∀ i c, w i = some c → c.Sound (GrantedKey ds i)) (hs : w.step? d = some s) :
    Caller.SoundStep (GrantedKey ds d.who) (GrantedKey (ds ++ [d]) d.who) s := by
  obtain ⟨who, now, act⟩ := d
  cases hc : w who with
  | none =>
      cases act with
      | opens client o =>
          obtain rfl : o.step client now = s := by simpa [step?, hc] using hs
          exact Caller.soundStep_opening o client
      | meets e => simp [step?, hc] at hs
  | some c =>
      cases act with
      | opens client o => simp [step?, hc] at hs
      | meets e =>
          obtain rfl : c.step now e = s := by simpa [step?, hc] using hs
          refine (h who c hc).step (fun key => GrantedKey.concat) ?_
          rintro reply key rfl hkey
          obtain ⟨response, rfl, hgrants⟩ := Reply.key?_eq_some.1 hkey
          exact ⟨now, response, List.mem_append_right _ (List.mem_singleton.2 rfl), hgrants⟩

theorem sound_of_run (ds : List (Deed β)) :
    ∀ i c, nobody.after ds i = some c → c.Sound (GrantedKey ds i) := by
  induction ds using List.reverseRecOn with
  | nil =>
      intro i c h
      cases h
  | append_singleton ds d ih =>
      intro i c h
      rw [after_concat] at h
      cases hs : (nobody.after ds).step? d with
      | none =>
          simp only [next, hs] at h
          exact (ih i c h).mono fun key => GrantedKey.concat
      | some s =>
          simp only [next, hs] at h
          rcases update_eq_some h with ⟨rfl, hnext⟩ | ⟨-, hold⟩
          · obtain rfl := Option.some.inj hnext
            exact (soundStep_of_deed ih hs).1
          · exact (ih i c hold).mono fun key => GrantedKey.concat

/-! ## The whole -/

/-- Whatever callers there are, in whatever order they go on, and whatever
the service answers: every request has a name; and one that carries the
empty key is sent by a session that was granted its lock with the empty key,
never by a call without a session. -/
theorem requests_named (ds : List (Deed β)) (d : Deed β) (q : Request)
    (hq : (nobody.after ds).sent d = some q) :
    q.name ≠ "" ∧ (q.key? = some "" → GrantedKey ds d.who "" ∧
      ∃ c, nobody.after (ds ++ [d]) d.who = some c ∧ c.isDirect = false) := by
  obtain ⟨s, hs, hsent⟩ := Option.bind_eq_some_iff.1 hq
  obtain ⟨hname, hkeys⟩ := (soundStep_of_deed (sound_of_run ds) hs).2 q hsent
  refine ⟨hname, fun hkey => ?_⟩
  obtain ⟨hdirect, hheard⟩ := (hkeys "" hkey).resolve_left (by simp)
  refine ⟨hheard, s.next, ?_, hdirect⟩
  rw [after_concat]
  simp [next, hs]

/-- Two callers: a session that takes a lock and gives it back,
and a direct call. -/
def twoCallers (key : String) : List (Deed Unit) :=
  [⟨0, 0, .opens ⟨{}, true⟩ .session⟩, ⟨1, 0, .opens ⟨{}, true⟩ (.unlock "job-43" "key-7")⟩,
    ⟨0, 0, .meets (.session (.acquire ⟨false, "job-42", {}⟩))⟩,
    ⟨0, 1, .meets (.answer (.acquired (.response (.granted "job-42" key))))⟩]

/-- The return of a lock that was granted with a key names the lock. -/
theorem requests_named_release :
    (nobody.after (twoCallers "key-1")).sent ⟨0, 2, .meets (.session .release)⟩ =
        some (.unlock ⟨"job-42", "key-1"⟩) ∧
      (Request.unlock ⟨"job-42", "key-1"⟩).name ≠ "" :=
  ⟨by decide, (requests_named (twoCallers "key-1") ⟨0, 2, .meets (.session .release)⟩ _
    (by decide)).1⟩

/-- A lock that was granted with the empty key is given back with it. -/
theorem empty_key_sent :
    ∃ q, (nobody.after (twoCallers "")).sent ⟨0, 2, .meets (.session .release)⟩ = some q ∧
      q.key? = some "" :=
  ⟨.unlock ⟨"job-42", ""⟩, by decide, rfl⟩

end Callers

end DistLock
