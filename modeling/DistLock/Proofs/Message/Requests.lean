import DistLock.Proofs.Grpc.Carriage
import DistLock.Session

/-!
# What requests show the service

A number that a user gives reaches the service as a field, or as the absence
of one (`Shows`): zero is left out, and what is too large for a field is cut
down to the largest number.

The layout of the requests is said here once more, with the tags as the
service has them: `textEntry` and `numberEntry` are the bytes of one field,
and `Acquisition.bytes` are those of a whole request for a lock. What a
session sends has exactly these bytes (`encode_request`), and the service
reads in them what was wished for (`isSeen_request`).
-/

namespace DistLock

open Wire

/-! ## Numbers -/

/-- What the service is told of a number, as an integer. -/
theorem toInt_clampNumber (n : UInt32) :
    (clampNumber n).toInt = (min n.toNat maxFieldNumber : Nat) := by
  have hlt : min n.toNat maxFieldNumber < 2 ^ 31 := by
    unfold maxFieldNumber
    omega
  exact Int32.toInt_ofNat_of_lt hlt

theorem clampNumber_eq_zero_iff {n : UInt32} : clampNumber n = 0 ↔ n = 0 := by
  rw [← Int32.toInt_inj, toInt_clampNumber, ← UInt32.toNat_inj]
  show ((min n.toNat maxFieldNumber : Nat) : Int) = 0 ↔ n.toNat = 0
  unfold maxFieldNumber
  omega

theorem varintOfInt32_clampNumber (n : UInt32) :
    varintOfInt32 (clampNumber n) = min n.toNat maxFieldNumber := by
  unfold varintOfInt32
  rw [toInt_clampNumber]
  show (((min n.toNat maxFieldNumber : Nat) : Int) % 18446744073709551616).toNat = _
  unfold maxFieldNumber
  omega

/-- A field shows a number: it is absent when the number is zero, and
otherwise holds the number, or the largest that a field can hold. -/
def Shows (field : Option Int32) (n : UInt32) : Prop :=
  (field = none ↔ n = 0) ∧
    ∀ x, field = some x → 0 < x.toInt ∧ x.toInt = (min n.toNat maxFieldNumber : Nat)

theorem shows_clampNumber {n : UInt32} (h : n ≠ 0) : Shows (some (clampNumber n)) n := by
  refine ⟨by simp [h], ?_⟩
  rintro x hx
  obtain rfl := Option.some.inj hx
  have hpositive : n.toNat ≠ 0 := by
    intro hzero
    exact h (UInt32.toNat_inj.1 hzero)
  rw [toInt_clampNumber]
  refine ⟨?_, rfl⟩
  unfold maxFieldNumber
  omega

theorem shows_nonZeroNumber (n : UInt32) : Shows (nonZeroNumber n) n := by
  unfold nonZeroNumber
  by_cases hzero : n = 0
  · rw [if_pos hzero]
    refine ⟨by simp [hzero], ?_⟩
    intro x hx
    cases hx
  · rw [if_neg hzero]
    exact shows_clampNumber hzero

/-! ## Bytes -/

/-- The bytes of a text under a tag. -/
def textEntry (tag : Nat) (s : String) : Bytes :=
  if s = "" then [] else writeKey tag .lengthDelimited ++ writeDelimited (bytesOfText s)

/-- The bytes of a number under a tag. -/
def numberEntry (tag : Nat) (n : UInt32) : Bytes :=
  if n = 0 then [] else writeKey tag .varint ++ writeVarint (min n.toNat maxFieldNumber)

theorem writeInt32_clampNumber (tag : Nat) {n : UInt32} (h : n ≠ 0) :
    Field.writeInt32 tag (clampNumber n) = numberEntry tag n := by
  unfold Field.writeInt32 numberEntry
  rw [varintOfInt32_clampNumber, if_neg h]

/-- A field that is absent for zero. -/
theorem write_nonZeroNumber (tag : Nat) (n : UInt32) :
    (nonZeroNumber n).elim [] (Field.writeInt32 tag) = numberEntry tag n := by
  unfold nonZeroNumber
  by_cases hzero : n = 0
  · unfold numberEntry
    rw [if_pos hzero, if_pos hzero]
    rfl
  · rw [if_neg hzero]
    exact writeInt32_clampNumber tag hzero

/-- A field that is always there, but not written for zero. -/
theorem write_clampNumber (tag : Nat) (n : UInt32) :
    (if clampNumber n = 0 then [] else Field.writeInt32 tag (clampNumber n)) =
      numberEntry tag n := by
  by_cases hzero : n = 0
  · unfold numberEntry
    rw [if_pos hzero, if_pos (clampNumber_eq_zero_iff.2 hzero)]
  · rw [if_neg fun h => hzero (clampNumber_eq_zero_iff.1 h)]
    exact writeInt32_clampNumber tag hzero

namespace Request

/-- No text of the request is longer than a text in memory can be. -/
def Storable (q : Request) : Prop := q.operation.requestType.Storable q.message

/-- What the service reads of a request. -/
def seen? (q : Request) : Option Request := ofBytes? q.operation q.encode

/-- The service reads the request that was made. -/
theorem seen?_of_storable {q : Request} (hq : q.Storable) : q.seen? = some q := by
  unfold seen? ofBytes?
  rw [q.encode_eq, MessageType.decode_of_storable hq]
  exact congrArg some q.ofMessage_message

end Request

/-! ## Requests for a lock -/

namespace Acquisition

/-- The bytes of a request for a lock. The tags of the lease and of the size
depend on whether the service is to wait. -/
def bytes (a : Acquisition) : Bytes :=
  if a.waits then
    textEntry 1 a.name ++ (numberEntry 2 a.options.waitTimeout ++
      (numberEntry 3 a.options.lease ++ numberEntry 4 a.options.size))
  else textEntry 1 a.name ++ (numberEntry 2 a.options.lease ++ numberEntry 3 a.options.size)

/-- A request says what was wished for. -/
def IsSeen (a : Acquisition) : Request → Prop
  | .lock r => a.waits = true ∧ r.name = a.name ∧ Shows r.waitTimeout a.options.waitTimeout ∧
      Shows r.lease a.options.lease ∧ Shows r.size a.options.size
  | .tryLock r => a.waits = false ∧ r.name = a.name ∧ Shows r.lease a.options.lease ∧
      Shows r.size a.options.size
  | .refreshLock _ | .unlock _ => False

variable (a : Acquisition)

theorem request_operation : a.request.operation = a.operation := by
  unfold request operation
  split <;> rfl

theorem encode_request : a.request.encode = a.bytes := by
  unfold request bytes
  cases a.waits with
  | true =>
      rw [if_pos rfl, if_pos rfl, ← write_nonZeroNumber 2, ← write_nonZeroNumber 3,
        ← write_nonZeroNumber 4, ← List.append_nil ((nonZeroNumber a.options.size).elim _ _)]
      rfl
  | false =>
      rw [if_neg Bool.false_ne_true, if_neg Bool.false_ne_true, ← write_nonZeroNumber 2,
        ← write_nonZeroNumber 3, ← List.append_nil ((nonZeroNumber a.options.size).elim _ _)]
      rfl

theorem isSeen_request : a.IsSeen a.request := by
  have hnumber (n : UInt32) : Shows (nonZeroNumber n) n := shows_nonZeroNumber n
  unfold request
  cases hwaits : a.waits with
  | true => exact ⟨hwaits, rfl, hnumber _, hnumber _, hnumber _⟩
  | false => exact ⟨hwaits, rfl, hnumber _, hnumber _⟩

end Acquisition

/-! ## Requests for a fresh lease -/

theorem encode_refreshRequest (name key : String) (lease : UInt32) :
    (Request.refreshLock (.ofSeconds name key lease)).encode =
      textEntry 1 name ++ (textEntry 2 key ++ numberEntry 3 lease) := by
  rw [← write_clampNumber 3, ← List.append_nil (if clampNumber lease = 0 then _ else _)]
  rfl

end DistLock
