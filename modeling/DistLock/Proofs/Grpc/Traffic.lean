import Mathlib.Data.List.Forall2
import Mathlib.Data.List.Induction
import DistLock.Proofs.Grpc.Carriage
import DistLock.Proofs.Grpc.Connecting
import DistLock.Proofs.Parties.Callers

/-!
# Traffic over a channel

Any number of callers make calls to a service, however that works: a
`Service` takes calls one after the other, and says something to each of them
when it wants to. What lies between is a `Line`; over a channel the calls are
HTTP requests (`Line.through`), and without one the service is handed each
request as such, together with the credentials of the client (`Line.direct`).

A channel makes no difference: whatever happens, the callers do the same,
the calls return the same and the service comes to the same as without one
(`traffic_transparent`).
-/

namespace DistLock

/-- An answer comes. -/
def Act.isAnswer {β : Type} : Act β → Bool
  | .meets (.answer _) => true
  | _ => false

namespace Grpc

open Wire

/-! ## Services and lines -/

/-- A request as a service has it before itself. -/
structure Delivery where
  credentials : List Bytes
  request : Request
  deriving DecidableEq, Repr

/-- How a service with states `σ` works. Calls have numbers. -/
structure Service (σ : Type) where
  /-- A call comes in. -/
  takes : σ → (now call : Nat) → Delivery → σ
  /-- What is said to a call, if anything can be said yet. -/
  answers : σ → (now call : Nat) → (o : Operation) → σ × Option (Verdict o)

/-- A service with one lock, for those who know the password. -/
def doorkeeper (password : Bytes) : Service (List (Nat × Bool)) where
  takes s _ number d := (number, d.credentials = [password]) :: s
  answers s _ number o := (s, (s.lookup number).map (verdict o))
where
  verdict : (o : Operation) → (known : Bool) → Verdict o
    | _, false => .refusal .unauthenticated "wrong password" (by decide)
    | .lock, true | .tryLock, true | .refreshLock, true =>
      .response (.granted "job-42" "key-1") (by decide +kernel)
    | .unlock, true => .response { unlocked := true, name := "job-42" } (by decide +kernel)

/-- What lies between callers and a service that gets to see a
call as an `ω`. -/
structure Line (ω : Type) where
  /-- What the service sees of a call. -/
  carry : Request → Option ω
  /-- What it makes of that. -/
  read : ω → Option Delivery
  /-- The answer that the caller gets. -/
  bring : (q : Request) → Verdict q.operation → Answer

namespace Line

/-- Nothing lies between. -/
def direct (credentials : List Bytes) : Line Delivery where
  carry q := some ⟨credentials, q⟩
  read := some
  bring _ v := v.answer

/-- Calls go through a channel. -/
def through (c : Channel) : Line HttpRequest where
  carry q := ((Peer.serving []).call c q).2.1
  read h := h.read?.map (⟨h.authorization, ·⟩)
  bring q v := ((Peer.serving [v.reply]).call c q).2.2

/-- For this request a line is as good as none, and what the service sees
is as `R` says. -/
structure Transparent {ω : Type} (l : Line ω) (credentials : List Bytes)
    (R : Request → ω → Prop) (q : Request) : Prop where
  carried : ∃ x, l.carry q = some x ∧ l.read x = some ⟨credentials, q⟩ ∧ R q x
  brought : ∀ v, l.bring q v = v.answer

/-- A channel is as good as none for a request that fits. -/
theorem transparent_through {c : Channel} {q : Request} (hc : c.isUsable = true) (hq : q.Fits) :
    (through c).Transparent c.authorization.toList (Carries c.authorization.toList) q where
  carried := by
    refine ⟨requestOf c q, ?_, ?_, carries_requestOf c hq⟩
    · simp only [through, Peer.call, hc, Bool.not_true, Bool.false_eq_true, if_false]
    · simp only [through, read?_requestOf c hq, Option.map_some]
      rfl
  brought v := congrArg (·.2.2) (Peer.call_of_isUsable hc v)

end Line

/-! ## What happens -/

/-- A call to the service, by one of the callers or as such. -/
structure PlacedCall where
  who : Option Nat
  request : Request
  deriving DecidableEq, Repr

/-- Callers and their service. -/
structure Scene (β σ : Type) where
  callers : Callers β := .nobody
  service : σ
  /-- All calls that were made. The number of a call is its place here. -/
  calls : List PlacedCall := []
  /-- The calls for which nobody waits any more. -/
  settled : List Nat := []
  /-- What calls returned. -/
  returned : List (Nat × Answer) := []
  /-- What the callers did. -/
  history : List (Deed β × Step (Caller β) (CallerResult β)) := []

namespace Scene

variable {β σ : Type}

/-- The service comes to another state. -/
def serve (w : Scene β σ) (s : σ) : Scene β σ := { w with service := s }

/-- A caller did something. -/
def record (w : Scene β σ) (d : Deed β) (s : Step (Caller β) (CallerResult β)) : Scene β σ :=
  { w with callers := w.callers.next d, history := w.history ++ [(d, s)] }

/-- Nobody waits for a call any more. -/
def leave (w : Scene β σ) (number : Nat) : Scene β σ := { w with settled := number :: w.settled }

/-- A call returned. -/
def conclude (w : Scene β σ) (number : Nat) (a : Answer) : Scene β σ :=
  { w.leave number with returned := w.returned ++ [(number, a)] }

end Scene

/-- A scene, and what the service saw of the calls. -/
structure Traffic (β σ ω : Type) extends Scene β σ where
  seen : List ω := []

inductive Happening (β : Type) where
  /-- A caller is opened, or goes on by itself. -/
  | deed (d : Deed β)
  /-- A call is made as such. -/
  | call (now : Nat) (q : Request)
  /-- The service answers a call, if it can. -/
  | answer (now number : Nat)
  /-- Nobody waits for a call any more. -/
  | leave (number : Nat)
  deriving DecidableEq, Repr

/-- A session takes a lock and gives it back; meanwhile somebody asks for
the lock and does not wait for the answer. -/
def visit : List (Happening Unit) :=
  let does (a : Act Unit) : Happening Unit := .deed ⟨0, 0, a⟩
  [does (.opens ⟨{}, true⟩ .session), does (.meets (.session (.acquire ⟨false, "job-42", {}⟩))),
    .call 0 (.tryLock { name := "job-42" }), .answer 0 0, .leave 1,
    does (.meets (.session .release)), .answer 0 2]

namespace Traffic

variable {β σ ω : Type} (l : Line ω) (service : Service σ)

/-- The same traffic in another scene. -/
def within (w : Traffic β σ ω) (scene : Scene β σ) : Traffic β σ ω := { w with toScene := scene }

/-- A call is made, if there is one to make. -/
def send (w : Traffic β σ ω) (who : Option Nat) (now : Nat) : Option Request → Traffic β σ ω
  | none => w
  | some q =>
    { w with
      calls := w.calls ++ [⟨who, q⟩]
      seen := w.seen ++ (l.carry q).toList
      service :=
        match (l.carry q).bind l.read with
        | some d => service.takes w.service now w.calls.length d
        | none => w.service }

/-- A caller does something, and makes the call that belongs to it. -/
def perform (w : Traffic β σ ω) (d : Deed β) : Traffic β σ ω :=
  match w.callers.step? d with
  | none => w
  | some s => (w.within (w.record d s)).send l service (some d.who) d.now s.sent

/-- A call returns to whoever made it. -/
def conclude (w : Traffic β σ ω) (now number : Nat) (c : PlacedCall) (a : Answer) :
    Traffic β σ ω :=
  let w := w.within (w.toScene.conclude number a)
  match c.who with
  | none => w
  | some who => w.perform l service ⟨who, now, .meets (.answer a)⟩

/-- The service is asked for the answer to a call. -/
def ask (w : Traffic β σ ω) (now number : Nat) (c : PlacedCall) : Traffic β σ ω :=
  match service.answers w.service now number c.request.operation with
  | (s, none) => w.within (w.serve s)
  | (s, some v) =>
    (w.within (w.serve s)).conclude l service now number c (l.bring c.request v)

/-- What happens next. Callers learn answers only from the service, and
each of them once. -/
def step (w : Traffic β σ ω) : Happening β → Traffic β σ ω
  | .deed d => if d.act.isAnswer then w else w.perform l service d
  | .call now q => w.send l service none now (some q)
  | .answer now number =>
    match w.calls[number]? with
    | none => w
    | some c => if number ∈ w.settled then w else w.ask l service now number c
  | .leave number => w.within (w.toScene.leave number)

/-- What comes of all that happens, from when nobody is there yet. -/
def run (s : σ) (hs : List (Happening β)) : Traffic β σ ω :=
  hs.foldl (step l service) { service := s }

variable {l : Line ω} {service : Service σ} {credentials : List Bytes} {R : Request → ω → Prop}
  {w : Traffic β σ ω} {w' : Traffic β σ Delivery}

theorem run_concat (s : σ) (hs : List (Happening β)) (e : Happening β) :
    run l service s (hs ++ [e]) = (run l service s hs).step l service e :=
  List.foldl_concat ..

/-! ### Calls stay -/

theorem calls_subset_send (w : Traffic β σ ω) (who : Option Nat) (now : Nat) (o : Option Request) :
    w.calls ⊆ (w.send l service who now o).calls := by
  cases o with
  | none => exact List.Subset.refl _
  | some q => exact List.subset_append_left _ _

theorem calls_subset_perform (w : Traffic β σ ω) (d : Deed β) :
    w.calls ⊆ (w.perform l service d).calls := by
  unfold perform
  cases w.callers.step? d with
  | none => exact List.Subset.refl _
  | some s => exact calls_subset_send (w.within (w.record d s)) _ _ _

theorem calls_subset_conclude (w : Traffic β σ ω) (now number : Nat) (c : PlacedCall) (a : Answer) :
    w.calls ⊆ (w.conclude l service now number c a).calls := by
  unfold conclude
  cases c.who with
  | none => exact List.Subset.refl _
  | some who => exact calls_subset_perform (w.within (w.toScene.conclude number a)) _

theorem calls_subset_ask (w : Traffic β σ ω) (now number : Nat) (c : PlacedCall) :
    w.calls ⊆ (w.ask l service now number c).calls := by
  unfold ask
  rcases service.answers w.service now number c.request.operation with ⟨s, _ | v⟩
  · exact List.Subset.refl _
  · exact calls_subset_conclude (w.within (w.serve s)) _ _ _ _

theorem calls_subset_step (w : Traffic β σ ω) (h : Happening β) :
    w.calls ⊆ (w.step l service h).calls := by
  cases h with
  | deed d =>
      simp only [step]
      split
      · exact List.Subset.refl _
      · exact calls_subset_perform w d
  | call now q => exact calls_subset_send w none now (some q)
  | answer now number =>
      simp only [step]
      split
      · exact List.Subset.refl _
      split
      · exact List.Subset.refl _
      · exact calls_subset_ask w now number _
  | leave number => exact List.Subset.refl _

/-! ### One step -/

/-- Over a line nothing is otherwise than without one, and the service saw
each call once. -/
structure Alike (R : Request → ω → Prop) (w : Traffic β σ ω) (w' : Traffic β σ Delivery) :
    Prop where
  scene : w.toScene = w'.toScene
  seen : List.Forall₂ (fun c x => R c.request x) w'.calls w.seen

/-- All calls are such that the line is as good as none. -/
def AllTransparent (l : Line ω) (credentials : List Bytes) (R : Request → ω → Prop)
    (calls : List PlacedCall) : Prop :=
  ∀ c ∈ calls, l.Transparent credentials R c.request

namespace Alike

theorem within (h : Alike R w w') (scene : Scene β σ) (hcalls : scene.calls = w'.calls) :
    Alike R (w.within scene) (w'.within scene) := by
  refine ⟨rfl, ?_⟩
  show List.Forall₂ _ scene.calls w.seen
  rw [hcalls]
  exact h.seen

theorem send (h : Alike R w w') (who : Option Nat) (now : Nat) (o : Option Request)
    (hcalls : AllTransparent l credentials R
      (w'.send (.direct credentials) service who now o).calls) :
    Alike R (w.send l service who now o) (w'.send (.direct credentials) service who now o) := by
  cases o with
  | none => exact h
  | some q =>
      obtain ⟨x, hcarry, hread, hx⟩ := (hcalls ⟨who, q⟩ (List.mem_append_right _ (.head _))).carried
      -- what is read off what the service sees is what it would be handed
      have hdelivered : (l.carry q).bind l.read =
          ((Line.direct credentials).carry q).bind (Line.direct credentials).read := by
        rw [hcarry]
        exact hread
      constructor
      · simp only [Traffic.send, h.scene, hdelivered]
      · have hseen : (w.send l service who now (some q)).seen = w.seen ++ [x] := by
          simp only [Traffic.send, hcarry, Option.toList_some]
        rw [hseen]
        exact List.rel_append h.seen (.cons hx .nil)

theorem perform (h : Alike R w w') (d : Deed β)
    (hcalls : AllTransparent l credentials R (w'.perform (.direct credentials) service d).calls) :
    Alike R (w.perform l service d) (w'.perform (.direct credentials) service d) := by
  unfold Traffic.perform at hcalls ⊢
  rw [h.scene]
  cases hs : w'.callers.step? d with
  | none => exact h
  | some s =>
      rw [hs] at hcalls
      exact (h.within (w'.record d s) rfl).send _ _ _ hcalls

theorem conclude (h : Alike R w w') (now number : Nat) (c : PlacedCall) (a : Answer)
    (hcalls : AllTransparent l credentials R
      (w'.conclude (.direct credentials) service now number c a).calls) :
    Alike R (w.conclude l service now number c a)
      (w'.conclude (.direct credentials) service now number c a) := by
  simp only [Traffic.conclude] at hcalls ⊢
  rw [h.scene]
  have hwithin := h.within (w'.toScene.conclude number a) rfl
  cases hwho : c.who with
  | none => exact hwithin
  | some who =>
      rw [hwho] at hcalls
      exact hwithin.perform _ hcalls

/-- The words of the service are what is brought to the caller. -/
theorem ask (h : Alike R w w') (now number : Nat) {c : PlacedCall} (hc : c ∈ w'.calls)
    (hcalls : AllTransparent l credentials R
      (w'.ask (.direct credentials) service now number c).calls) :
    Alike R (w.ask l service now number c)
      (w'.ask (.direct credentials) service now number c) := by
  -- the call stays among those for which the line is as good as none
  have hbrought := (hcalls c (calls_subset_ask w' now number c hc)).brought
  unfold Traffic.ask at hcalls ⊢
  rw [h.scene]
  rcases hs : service.answers w'.service now number c.request.operation with ⟨s, _ | v⟩
  · exact h.within (w'.serve s) rfl
  · rw [hs] at hcalls
    simp only [hbrought v]
    exact (h.within (w'.serve s) rfl).conclude _ _ _ _ hcalls

theorem step (h : Alike R w w') (e : Happening β)
    (hcalls : AllTransparent l credentials R (w'.step (.direct credentials) service e).calls) :
    Alike R (w.step l service e) (w'.step (.direct credentials) service e) := by
  cases e with
  | deed d =>
      simp only [Traffic.step] at hcalls ⊢
      cases ha : d.act.isAnswer with
      | true => exact h
      | false =>
          rw [ha] at hcalls
          exact h.perform d hcalls
  | call now q => exact h.send none now (some q) hcalls
  | answer now number =>
      simp only [Traffic.step] at hcalls ⊢
      rw [h.scene]
      cases hc : w'.calls[number]? with
      | none => exact h
      | some c =>
          by_cases hsettled : number ∈ w'.settled
          · simp only [hsettled, if_true]
            exact h
          · simp only [hc, hsettled, if_false] at hcalls ⊢
            exact h.ask now number (List.mem_of_getElem? hc) hcalls
  | leave number =>
      simp only [Traffic.step]
      rw [h.scene]
      exact h.within (w'.toScene.leave number) rfl

/-- What is so after each step is so after all of them. -/
theorem run {s : σ} {hs : List (Happening β)}
    (hcalls : AllTransparent l credentials R
      (Traffic.run (.direct credentials) service s hs).calls) :
    Alike R (Traffic.run l service s hs) (Traffic.run (.direct credentials) service s hs) := by
  induction hs using List.reverseRecOn with
  | nil => exact ⟨rfl, .nil⟩
  | append_singleton hs e ih =>
      rw [run_concat] at hcalls ⊢
      rw [run_concat]
      -- the calls before the last step are among those after it
      exact (ih fun c hc => hcalls c (calls_subset_step _ e hc)).step e hcalls

end Alike

end Traffic

/-! ## The whole -/

/-- **A channel is as good as none.** Without encryption a channel comes
about if and only if the password has no control character other than the
tab. Then every call that fits shows the service one request with the path
of its operation, the message and the credentials, and returns what the
service answers; and whatever happens between callers and a service, over
the channel it is the same as if the service were at hand, and the service
saw one such request for each call. What a service answers is a `Verdict`,
so its responses are of a length that is received. -/
theorem traffic_transparent {config : ClientConfig} (hconfig : config.Dials) (d : Directory) :
    (Channel.make config d =
        .error (.invalidRequest "password contains characters not allowed in metadata") ↔
      Unsendable config.password) ∧
    (¬ Unsendable config.password → ∃ channel, Channel.make config d = .ok channel ∧
      (∀ (q : Request) (v : Verdict q.operation), q.Fits →
        ∃ h, (Peer.serving [v.reply]).call channel q = (.serving [], some h, v.answer) ∧
          Carries (credentialsOf config.password) q h) ∧
      ∀ {β σ : Type} (service : Service σ) (s : σ) (hs : List (Happening β)),
        let remote := Traffic.run (.through channel) service s hs
        let direct := Traffic.run (.direct (credentialsOf config.password)) service s hs
        (∀ c ∈ direct.calls, c.request.Fits) →
          remote.toScene = direct.toScene ∧
            List.Forall₂ (fun c h => Carries (credentialsOf config.password) c.request h)
              direct.calls remote.seen) := by
  refine ⟨hconfig.make_eq_refusal d, fun hsendable => ?_⟩
  obtain ⟨channel, hmake, husable, hcredentials⟩ := hconfig.make_of_sendable d hsendable
  rw [← hcredentials]
  refine ⟨channel, hmake, ?_, ?_⟩
  · intro q v hq
    exact ⟨requestOf channel q, Peer.call_of_isUsable husable v, carries_requestOf channel hq⟩
  · intro β σ service s hs remote direct hfits
    have halike : Traffic.Alike (Carries channel.authorization.toList) remote direct :=
      Traffic.Alike.run fun c hc => Line.transparent_through husable (hfits c hc)
    exact ⟨halike.scene, halike.seen⟩

/-- With the password the session gets its lock over the channel, and is
rid of it again. -/
theorem traffic_transparent_visit :
    let config : ClientConfig := { password := some "s3cret" }
    let service := doorkeeper (bytesOfText "s3cret")
    let direct := Traffic.run (.direct [bytesOfText "s3cret"]) service [] visit
    config.Dials ∧ ¬ Unsendable config.password ∧ (∀ c ∈ direct.calls, c.request.Fits) ∧
      direct.returned = [(0, .acquired (.response (.granted "job-42" "key-1"))),
        (2, .unlocked (.response { unlocked := true, name := "job-42" }))] ∧
      ∃ channel, Channel.make config ⟨"", []⟩ = .ok channel ∧
        (Traffic.run (.through channel) service [] visit).toScene = direct.toScene ∧
        List.Forall₂ (fun c h => Carries [bytesOfText "s3cret"] c.request h) direct.calls
          (Traffic.run (.through channel) service [] visit).seen := by
  intro config service direct
  have hdials : config.Dials := ⟨rfl, rfl, rfl, ⟨.http, "localhost:3144", ""⟩, by decide, rfl⟩
  have hsendable : ¬ Unsendable config.password := by
    rintro ⟨p, hp, hbad⟩
    obtain rfl := Option.some.inj hp
    revert hbad
    decide
  have hfits : ∀ c ∈ direct.calls, c.request.Fits := by decide +kernel
  obtain ⟨channel, hmake, -, hrun⟩ := (traffic_transparent hdials ⟨"", []⟩).2 hsendable
  exact ⟨hdials, hsendable, hfits, rfl, channel, hmake, hrun service [] visit hfits⟩

end Grpc

end DistLock
