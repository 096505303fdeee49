import DistLock.Simulation.Server
import DistLock.Proofs.Parties.Custody
import DistLock.Proofs.Parties.Exclusion
import DistLock.Proofs.Service.LockTable

/-!
# The service to rehearse with

What is shown of parties and their service holds with the service of the
simulation: where it plays no prepared reply, it answers on the spot
(`advance_onTheSpot`), and it grants a name only when it is free, with a key
that was never issued, and frees it only for its key (`advance_serves`).
-/

namespace DistLock.Simulation

/-- The service asks its table: nothing was prepared for the call, and it
has to wait only if it is for a lock. -/
def CallStage.AsksTable (q : Request) : CallStage → Prop
  | .scripted _ answer => answer = none
  | .waiting _ _ => q.asks = true

namespace Server

/-- `Does s q r`: asked `q`, the service `s` does `r` when it
asks its table. -/
inductive Does (s : Server) (q : Request) : Server × Sum CallStage Answer → Prop
  | waits {stage} : Does s q (s, .inl stage)
  | grants : q.asks = true → s.table.key? q.name = none →
      Does s q ({ s with table := (s.table.grant q.name).1 },
        .inr (.acquired (.response (.granted q.name (LockTable.freshKey s.table.granted)))))
  | declines {response : LockResponse} : q.asks = true →
      Reply.key? (.response response) = none →
      Does s q (s, .inr (.acquired (.response response)))
  | refreshes {r response} : q = .refreshLock r →
      Does s q (s, .inr (.refreshed (.response response)))
  | frees {u response} : q = .unlock u → s.table.key? u.name = some u.key →
      response.error = none → response.unlocked = true →
      Does s q ({ s with table := s.table.remove u.name },
        .inr (.unlocked (.response response)))
  | refuses {u response} : q = .unlock u → s.table.key? u.name ≠ some u.key →
      Does s q (s, .inr (.unlocked (.response response)))

variable {s : Server} {q : Request} {later : Sum CallStage Answer} {stage : CallStage}

/-- A lock that is free is granted. -/
theorem Does.lockOr (hq : q.asks = true) (hlater : s.Does q (s, later)) :
    s.Does q (s.lockOr q.name later) := by
  unfold Server.lockOr
  split
  · rename_i hfree
    exact .grants hq (Option.isNone_iff_eq_none.1 hfree)
  · exact hlater

theorem does_consult (s : Server) (now : Nat) (q : Request) : s.Does q (s.consult now q) := by
  cases q with
  | lock r => exact Does.lockOr (q := .lock r) rfl .waits
  | tryLock r =>
      simp only [consult, LockTable.tryLock]
      cases hfree : s.table.isFree r.name with
      | true => exact .grants (q := .tryLock r) rfl (Option.isNone_iff_eq_none.1 hfree)
      | false => exact .declines rfl rfl
  | refreshLock r => exact .refreshes rfl
  | unlock u =>
      simp only [consult, LockTable.unlock]
      cases hkey : s.table.key? u.name with
      | none => exact .refuses rfl (by simp [hkey])
      | some k =>
          by_cases hk : k = u.key
          · subst hk
            simp only [if_true]
            exact .frees rfl hkey rfl rfl
          · simp only [hk, if_false]
            exact .refuses rfl (by simpa [hkey] using hk)

theorem does_advance (now : Nat) (hstage : stage.AsksTable q) :
    s.Does q (s.advance now q stage) := by
  cases stage with
  | scripted due answer =>
      obtain rfl : answer = none := hstage
      exact does_consult s now q
  | waiting due last =>
      refine Does.lockOr hstage ?_
      cases last with
      | true => exact .declines hstage rfl
      | false => exact .waits

/-! ## The whole -/

/-- Where it plays no prepared reply, the service lets its caller wait, or
answers on the spot. -/
theorem advance_onTheSpot (now : Nat) (hstage : stage.AsksTable q) (hq : q.worker = .holder) :
    match s.advance now q stage with
    | (s', .inl _) => s' = s
    | (s', .inr a) => OnTheSpot s.table.key? q a s'.table.key? := by
  have hdoes := does_advance (s := s) now hstage
  generalize s.advance now q stage = r at hdoes ⊢
  cases hdoes with
  | waits => rfl
  | grants hasks hfree =>
      have hkeys : (s.table.grant q.name).1.key? =
          Function.update s.table.key? q.name (some (LockTable.freshKey s.table.granted)) :=
        s.table.key?_hold q.name _
      simp only [hkeys]
      exact .grants hasks hfree rfl
  | declines hasks hkey => exact .declines hasks hkey (by simp)
  | refreshes hr => simp [hr, Request.worker] at hq
  | @frees u response hu hheld herror hunlocked =>
      subst hu
      simp only [s.table.key?_remove u.name]
      exact .frees hheld herror hunlocked
  | refuses hu hheld =>
      subst hu
      exact .refuses hheld

end Server

/-- The ledger is that of a lock table: it holds the same locks, and the
keys that were issued are those that the table gave out. -/
structure Reflects (t : Ledger) (table : LockTable) : Prop where
  held : t.held = table.key?
  issued : ∀ key i, t.issuedTo key = some i → ∃ n < table.granted, key = LockTable.freshKey n

namespace Reflects

variable {t : Ledger} {table : LockTable}

/-- The key that the table gives out next was issued to nobody. -/
theorem fresh (h : Reflects t table) : t.issuedTo (LockTable.freshKey table.granted) = none := by
  cases hi : t.issuedTo (LockTable.freshKey table.granted) with
  | none => rfl
  | some i =>
      obtain ⟨n, hn, heq⟩ := h.issued _ i hi
      exact absurd (LockTable.freshKey_injective heq) (by omega)

theorem grant (h : Reflects t table) (i : Nat) (name : String) :
    Reflects (t.grant i name (LockTable.freshKey table.granted)) (table.grant name).1 := by
  refine ⟨?_, fun key j hj => ?_⟩
  · rw [show (table.grant name).1.key? = _ from table.key?_hold name _, ← h.held]
    rfl
  · by_cases hkey : key = LockTable.freshKey table.granted
    · exact ⟨table.granted, Nat.lt_succ_self _, hkey⟩
    · obtain ⟨n, hn, heq⟩ := h.issued key j (by simpa [Ledger.grant, hkey] using hj)
      exact ⟨n, Nat.lt_succ_of_lt hn, heq⟩

theorem free (h : Reflects t table) (name : String) : Reflects (t.free name) (table.remove name) :=
  ⟨by rw [table.key?_remove, ← h.held]; rfl, h.issued⟩

end Reflects

/-- Where it plays no prepared reply, the service serves its callers as
those have to rely on. -/
theorem Server.advance_serves {s : Server} {q : Request} {stage : CallStage} {t : Ledger}
    (h : Reflects t s.table) (now i : Nat) (hstage : stage.AsksTable q) :
    match s.advance now q stage with
    | (s', .inl _) => s' = s
    | (s', .inr a) => ∃ t', t.Serves i q a t' ∧ Reflects t' s'.table := by
  have hdoes := does_advance (s := s) now hstage
  generalize s.advance now q stage = r at hdoes ⊢
  cases hdoes with
  | waits => rfl
  | grants hasks hfree =>
      exact ⟨_, .grants hasks (h.held ▸ hfree) h.fresh (.inr rfl), h.grant i q.name⟩
  | declines hasks hkey => exact ⟨t, .declines hasks hkey, h⟩
  | refreshes hr =>
      subst hr
      exact ⟨t, .refreshes, h⟩
  | @frees u response hu hheld _ _ =>
      subst hu
      exact ⟨_, .frees (h.held ▸ hheld), h.free u.name⟩
  | refuses hu _ =>
      subst hu
      exact ⟨t, .keeps, h⟩

end DistLock.Simulation
