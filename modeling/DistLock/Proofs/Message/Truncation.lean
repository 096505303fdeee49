import DistLock.Proofs.Message.Merge
import DistLock.Proofs.Wire.Truncation

/-!
# Messages that are cut off

`first k m` is `m` with the fields behind the first `k` unset. What is
written of it are the bytes of the first `k` fields of `m`, its head, so a
message that is cut off behind a field is read as `first k m`; everywhere
else it cannot be read (`decode_truncated`).
-/

namespace DistLock

open Wire

/-! ## The first fields of a message -/

def RpcError.first (k : Nat) (m : RpcError) : RpcError where
  code := if 0 < k then m.code else 0
  message := if 1 < k then m.message else ""

def LockRequest.first (k : Nat) (m : LockRequest) : LockRequest where
  name := if 0 < k then m.name else ""
  waitTimeout := if 1 < k then m.waitTimeout else none
  lease := if 2 < k then m.lease else none
  size := if 3 < k then m.size else none

def TryLockRequest.first (k : Nat) (m : TryLockRequest) : TryLockRequest where
  name := if 0 < k then m.name else ""
  lease := if 1 < k then m.lease else none
  size := if 2 < k then m.size else none

def RefreshLockRequest.first (k : Nat) (m : RefreshLockRequest) : RefreshLockRequest where
  name := if 0 < k then m.name else ""
  key := if 1 < k then m.key else ""
  lease := if 2 < k then m.lease else 0

def UnlockRequest.first (k : Nat) (m : UnlockRequest) : UnlockRequest where
  name := if 0 < k then m.name else ""
  key := if 1 < k then m.key else ""

def LockResponse.first (k : Nat) (m : LockResponse) : LockResponse where
  locked := if 0 < k then m.locked else false
  name := if 1 < k then m.name else ""
  key := if 2 < k then m.key else ""
  error := if 3 < k then m.error else none

def UnlockResponse.first (k : Nat) (m : UnlockResponse) : UnlockResponse where
  unlocked := if 0 < k then m.unlocked else false
  name := if 1 < k then m.name else ""
  error := if 2 < k then m.error else none

namespace MessageType

/-- A message with the fields behind the first `k` unset. -/
def first : (t : MessageType) → Nat → t.Value → t.Value
  | .rpcError => RpcError.first
  | .lockRequest => LockRequest.first
  | .tryLockRequest => TryLockRequest.first
  | .refreshLockRequest => RefreshLockRequest.first
  | .unlockRequest => UnlockRequest.first
  | .lockResponse => LockResponse.first
  | .unlockResponse => UnlockResponse.first

/-- What is written of the first `k` fields. -/
theorem encode_first (t : MessageType) (k : Nat) (m : t.Value) :
    t.schema.encode (t.first k m) = t.schema.head k m := by
  cases t with
  | rpcError => match k with
    | 0 | 1 => rfl
    | k + 2 => rw [Schema.head_of_le (by show 2 ≤ _; omega)]; rfl
  | lockRequest => match k with
    | 0 | 1 | 2 | 3 => rfl
    | k + 4 => rw [Schema.head_of_le (by show 4 ≤ _; omega)]; rfl
  | tryLockRequest => match k with
    | 0 | 1 | 2 => rfl
    | k + 3 => rw [Schema.head_of_le (by show 3 ≤ _; omega)]; rfl
  | refreshLockRequest => match k with
    | 0 | 1 | 2 => rfl
    | k + 3 => rw [Schema.head_of_le (by show 3 ≤ _; omega)]; rfl
  | unlockRequest => match k with
    | 0 | 1 => rfl
    | k + 2 => rw [Schema.head_of_le (by show 2 ≤ _; omega)]; rfl
  | lockResponse => match k with
    | 0 | 1 | 2 | 3 => rfl
    | k + 4 => rw [Schema.head_of_le (by show 4 ≤ _; omega)]; rfl
  | unlockResponse => match k with
    | 0 | 1 | 2 => rfl
    | k + 3 => rw [Schema.head_of_le (by show 3 ≤ _; omega)]; rfl

theorem storable_first {t : MessageType} {m : t.Value} (hm : t.Storable m) (k : Nat) :
    t.Storable (t.first k m) := by
  have htext {i : Nat} {x : String} (hx : x.utf8ByteSize < 2 ^ 63) :
      (if i < k then x else "").utf8ByteSize < 2 ^ 63 := by
    split
    · exact hx
    · decide
  have herror {i : Nat} {e : Option RpcError}
      (he : ∀ x ∈ (e.map (·.message)).toList, x.utf8ByteSize < 2 ^ 63) :
      ∀ x ∈ ((if i < k then e else none).map (·.message)).toList, x.utf8ByteSize < 2 ^ 63 := by
    split
    · exact he
    · intro x hx
      cases hx
  cases t with
  | rpcError | lockRequest | tryLockRequest =>
      have hone := List.forall_mem_singleton.1 hm
      exact List.forall_mem_singleton.2 (htext hone)
  | refreshLockRequest | unlockRequest =>
      obtain ⟨hname, hrest⟩ := List.forall_mem_cons.1 hm
      have hkey := List.forall_mem_singleton.1 hrest
      exact List.forall_mem_cons.2 ⟨htext hname, List.forall_mem_singleton.2 (htext hkey)⟩
  | lockResponse =>
      obtain ⟨hname, hrest⟩ := List.forall_mem_cons.1 hm
      obtain ⟨hkey, hmessage⟩ := List.forall_mem_cons.1 hrest
      exact List.forall_mem_cons.2
        ⟨htext hname, List.forall_mem_cons.2 ⟨htext hkey, herror hmessage⟩⟩
  | unlockResponse =>
      obtain ⟨hname, hmessage⟩ := List.forall_mem_cons.1 hm
      exact List.forall_mem_cons.2 ⟨htext hname, herror hmessage⟩

/-- **Truncation.** A message that is cut off behind its first `k` fields
is read as the message with the others unset. Cut off anywhere else, inside
a key, a number, a length, a text or the decision of a response, it cannot
be read; so whatever is read of a part is the beginning of the message,
field by field. -/
theorem decode_truncated (t : MessageType) {m : t.Value} (hm : t.Storable m) {p : Bytes}
    (hp : p <+: t.schema.encode m) :
    (∀ k, p = t.schema.head k m → t.schema.decode p = .ok (t.first k m)) ∧
      ((∀ k, p ≠ t.schema.head k m) → ∃ e, t.schema.decode p = .error e) ∧
      ∀ m', t.schema.decode p = .ok m' → ∃ k, p = t.schema.head k m ∧ m' = t.first k m := by
  have hboundary (k : Nat) (hk : p = t.schema.head k m) :
      t.schema.decode p = .ok (t.first k m) := by
    rw [hk, ← encode_first]
    exact decode_of_storable (storable_first hm k)
  have hhead {m' : t.Value} (hm' : t.schema.decode p = .ok m') : ∃ k, p = t.schema.head k m :=
    Schema.head_of_decode t.sound_schema (takes_join t.schema.empty hm) hp hm'
  refine ⟨hboundary, ?_, ?_⟩
  · intro hinside
    cases hread : t.schema.decode p with
    | error e => exact ⟨e, rfl⟩
    | ok m' =>
        obtain ⟨k, hk⟩ := hhead hread
        exact absurd hk (hinside k)
  · intro m' hm'
    obtain ⟨k, hk⟩ := hhead hm'
    have hfirst := hboundary k hk
    rw [hm'] at hfirst
    injection hfirst with hfirst
    exact ⟨k, hk, hfirst⟩

/-- A refusal cut off before the decision, and cut off in it, behind its
number of ten bytes, where the decision alone would be complete. -/
theorem decode_truncated_refusal :
    LockResponse.schema.decode [18, 6, 106, 111, 98, 45, 52, 50] = .ok { name := "job-42" } ∧
      ∃ e, LockResponse.schema.decode ([18, 6, 106, 111, 98, 45, 52, 50] ++
        [34, 14, 8, 249, 255, 255, 255, 255, 255, 255, 255, 255, 1]) = .error e := by
  let m : lockResponse.Value := LockResponse.mk false "job-42" "" (some ⟨-7, "x"⟩)
  have hm : lockResponse.Storable m := by
    intro x hx
    have htexts : x ∈ ["job-42", "", "x"] := hx
    simp only [List.mem_cons, List.not_mem_nil, or_false] at htexts
    rcases htexts with rfl | rfl | rfl <;> decide
  have hwhole : lockResponse.schema.encode m = [18, 6, 106, 111, 98, 45, 52, 50] ++
      ([34, 14, 8, 249, 255, 255, 255, 255, 255, 255, 255, 255, 1] ++ [18, 1, 120]) := by
    decide +kernel
  constructor
  · apply (decode_truncated lockResponse hm _).1 2
    · decide +kernel
    · rw [hwhole]
      exact List.prefix_append _ _
  · apply (decode_truncated lockResponse hm _).2.1
    · intro k
      match k with
      | 0 | 1 | 2 | 3 => decide +kernel
      | k + 4 =>
          rw [Schema.head_of_le (Nat.le_add_left 4 k)]
          decide +kernel
    · rw [hwhole, ← List.append_assoc]
      exact List.prefix_append _ _

end MessageType

end DistLock
