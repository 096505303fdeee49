import DistLock.Message.Schema
import DistLock.Proofs.Wire.Roundtrip

/-!
# Messages and their bytes

The field-wise merge of two messages of one type (`join`), and what encoding
and decoding have to do with it: what is written of `b` takes every `a` to
`join a b` (`takes_join`), so decoding gives back what was encoded, and
decoding two encodings behind each other gives the merge of the two.

Both are shown for all message types at once; `MessageType` lists them. A
length on the wire has 64 bits, so the texts of a message are assumed to fit
into memory (`Storable`).
-/

namespace DistLock

open Wire

/-! ## Field-wise merge -/

def RpcError.join (a b : RpcError) : RpcError where
  code := overlay 0 a.code b.code
  message := overlay "" a.message b.message

def LockRequest.join (a b : LockRequest) : LockRequest where
  name := overlay "" a.name b.name
  waitTimeout := b.waitTimeout.or a.waitTimeout
  lease := b.lease.or a.lease
  size := b.size.or a.size

def TryLockRequest.join (a b : TryLockRequest) : TryLockRequest where
  name := overlay "" a.name b.name
  lease := b.lease.or a.lease
  size := b.size.or a.size

def RefreshLockRequest.join (a b : RefreshLockRequest) : RefreshLockRequest where
  name := overlay "" a.name b.name
  key := overlay "" a.key b.key
  lease := overlay 0 a.lease b.lease

def UnlockRequest.join (a b : UnlockRequest) : UnlockRequest where
  name := overlay "" a.name b.name
  key := overlay "" a.key b.key

def LockResponse.join (a b : LockResponse) : LockResponse where
  locked := overlay false a.locked b.locked
  name := overlay "" a.name b.name
  key := overlay "" a.key b.key
  error := Option.merge RpcError.join a.error b.error

def UnlockResponse.join (a b : UnlockResponse) : UnlockResponse where
  unlocked := overlay false a.unlocked b.unlocked
  name := overlay "" a.name b.name
  error := Option.merge RpcError.join a.error b.error

/-! What is read into the empty message is the message that was written. -/

theorem RpcError.join_empty (b : RpcError) : RpcError.join {} b = b := by
  simp only [RpcError.join, overlay_default]

theorem LockRequest.join_empty (b : LockRequest) : LockRequest.join {} b = b := by
  simp only [LockRequest.join, overlay_default, Option.or_none]

theorem TryLockRequest.join_empty (b : TryLockRequest) : TryLockRequest.join {} b = b := by
  simp only [TryLockRequest.join, overlay_default, Option.or_none]

theorem RefreshLockRequest.join_empty (b : RefreshLockRequest) :
    RefreshLockRequest.join {} b = b := by
  simp only [RefreshLockRequest.join, overlay_default]

theorem UnlockRequest.join_empty (b : UnlockRequest) : UnlockRequest.join {} b = b := by
  simp only [UnlockRequest.join, overlay_default]

theorem LockResponse.join_empty (b : LockResponse) : LockResponse.join {} b = b := by
  simp only [LockResponse.join, overlay_default, Option.merge_none_left]

theorem UnlockResponse.join_empty (b : UnlockResponse) : UnlockResponse.join {} b = b := by
  simp only [UnlockResponse.join, overlay_default, Option.merge_none_left]

/-! ## The message types -/

inductive MessageType where
  | rpcError
  | lockRequest
  | tryLockRequest
  | refreshLockRequest
  | unlockRequest
  | lockResponse
  | unlockResponse
  deriving DecidableEq, Repr

namespace MessageType

/-- The messages of a type. -/
def Value : MessageType → Type
  | .rpcError => RpcError
  | .lockRequest => LockRequest
  | .tryLockRequest => TryLockRequest
  | .refreshLockRequest => RefreshLockRequest
  | .unlockRequest => UnlockRequest
  | .lockResponse => LockResponse
  | .unlockResponse => UnlockResponse

def schema : (t : MessageType) → Schema t.Value
  | .rpcError => RpcError.schema
  | .lockRequest => LockRequest.schema
  | .tryLockRequest => TryLockRequest.schema
  | .refreshLockRequest => RefreshLockRequest.schema
  | .unlockRequest => UnlockRequest.schema
  | .lockResponse => LockResponse.schema
  | .unlockResponse => UnlockResponse.schema

def join : (t : MessageType) → t.Value → t.Value → t.Value
  | .rpcError => RpcError.join
  | .lockRequest => LockRequest.join
  | .tryLockRequest => TryLockRequest.join
  | .refreshLockRequest => RefreshLockRequest.join
  | .unlockRequest => UnlockRequest.join
  | .lockResponse => LockResponse.join
  | .unlockResponse => UnlockResponse.join

/-- All texts of a message, also those of the decision inside it. -/
def texts : (t : MessageType) → t.Value → List String
  | .rpcError => fun (m : RpcError) => [m.message]
  | .lockRequest => fun (m : LockRequest) => [m.name]
  | .tryLockRequest => fun (m : TryLockRequest) => [m.name]
  | .refreshLockRequest => fun (m : RefreshLockRequest) => [m.name, m.key]
  | .unlockRequest => fun (m : UnlockRequest) => [m.name, m.key]
  | .lockResponse => fun (m : LockResponse) => m.name :: m.key :: (m.error.map (·.message)).toList
  | .unlockResponse => fun (m : UnlockResponse) => m.name :: (m.error.map (·.message)).toList

/-- No text is longer than a text in memory can be. -/
def Storable (t : MessageType) (m : t.Value) : Prop := ∀ x ∈ t.texts m, x.utf8ByteSize < 2 ^ 63

end MessageType

/-! ## The tables -/

theorem RpcError.sound_schema : RpcError.schema.Sound where
  fields := by
    simp only [RpcError.schema, List.forall_mem_cons]
    exact ⟨Field.sound_int32 .., Field.sound_text .., fun f hf => nomatch hf⟩
  tags_fit := by decide
  tags_nodup := by decide

theorem LockRequest.sound_schema : LockRequest.schema.Sound where
  fields := by
    simp only [LockRequest.schema, List.forall_mem_cons]
    exact ⟨Field.sound_text .., Field.sound_optionalInt32 .., Field.sound_optionalInt32 ..,
      Field.sound_optionalInt32 .., fun f hf => nomatch hf⟩
  tags_fit := by decide
  tags_nodup := by decide

theorem TryLockRequest.sound_schema : TryLockRequest.schema.Sound where
  fields := by
    simp only [TryLockRequest.schema, List.forall_mem_cons]
    exact ⟨Field.sound_text .., Field.sound_optionalInt32 .., Field.sound_optionalInt32 ..,
      fun f hf => nomatch hf⟩
  tags_fit := by decide
  tags_nodup := by decide

theorem RefreshLockRequest.sound_schema : RefreshLockRequest.schema.Sound where
  fields := by
    simp only [RefreshLockRequest.schema, List.forall_mem_cons]
    exact ⟨Field.sound_text .., Field.sound_text .., Field.sound_int32 ..,
      fun f hf => nomatch hf⟩
  tags_fit := by decide
  tags_nodup := by decide

theorem UnlockRequest.sound_schema : UnlockRequest.schema.Sound where
  fields := by
    simp only [UnlockRequest.schema, List.forall_mem_cons]
    exact ⟨Field.sound_text .., Field.sound_text .., fun f hf => nomatch hf⟩
  tags_fit := by decide
  tags_nodup := by decide

theorem LockResponse.sound_schema : LockResponse.schema.Sound where
  fields := by
    simp only [LockResponse.schema, List.forall_mem_cons]
    exact ⟨Field.sound_flag .., Field.sound_text .., Field.sound_text ..,
      Field.sound_nested RpcError.sound_schema .., fun f hf => nomatch hf⟩
  tags_fit := by decide
  tags_nodup := by decide

theorem UnlockResponse.sound_schema : UnlockResponse.schema.Sound where
  fields := by
    simp only [UnlockResponse.schema, List.forall_mem_cons]
    exact ⟨Field.sound_flag .., Field.sound_text .., Field.sound_nested RpcError.sound_schema ..,
      fun f hf => nomatch hf⟩
  tags_fit := by decide
  tags_nodup := by decide

namespace MessageType

theorem sound_schema (t : MessageType) : t.schema.Sound := by
  cases t with
  | rpcError => exact RpcError.sound_schema
  | lockRequest => exact LockRequest.sound_schema
  | tryLockRequest => exact TryLockRequest.sound_schema
  | refreshLockRequest => exact RefreshLockRequest.sound_schema
  | unlockRequest => exact UnlockRequest.sound_schema
  | lockResponse => exact LockResponse.sound_schema
  | unlockResponse => exact UnlockResponse.sound_schema

end MessageType

/-- A decision in a response: its length has its place on the wire. -/
theorem RpcError.length_encode_lt {e : RpcError} (he : e.message.utf8ByteSize < 2 ^ 63) :
    (RpcError.schema.encode e).length < 2 ^ 64 := by
  rw [← RpcError.sound_schema.size_eq]
  simp only [Schema.size, RpcError.schema, List.foldr_cons, List.foldr_nil]
  apply Nat.lt_of_le_of_lt (Nat.add_le_add (Field.size_int32_le e (by decide))
    (Nat.add_le_add_right (Field.size_text_le (by decide) he) 0))
  omega

/-! ## What an encoding does to a message -/

theorem RpcError.takes_join {levels : Nat} (a : RpcError) {b : RpcError}
    (hb : b.message.utf8ByteSize < 2 ^ 63) : RpcError.schema.Takes levels b a (a.join b) :=
  .cons (Field.takes_int32 fun _ => rfl) <| .cons (Field.takes_text (fun _ => rfl) (by omega)) .nil

theorem LockRequest.takes_join {levels : Nat} (a : LockRequest) {b : LockRequest}
    (hb : b.name.utf8ByteSize < 2 ^ 63) : LockRequest.schema.Takes levels b a (a.join b) :=
  .cons (Field.takes_text (fun _ => rfl) (by omega)) <|
  .cons (Field.takes_optionalInt32 (fun m v => { m with waitTimeout := v }) (fun _ _ => rfl)
    fun _ => rfl) <|
  .cons (Field.takes_optionalInt32 (fun m v => { m with lease := v }) (fun _ _ => rfl)
    fun _ => rfl) <|
  .cons (Field.takes_optionalInt32 (fun m v => { m with size := v }) (fun _ _ => rfl)
    fun _ => rfl) .nil

theorem TryLockRequest.takes_join {levels : Nat} (a : TryLockRequest) {b : TryLockRequest}
    (hb : b.name.utf8ByteSize < 2 ^ 63) : TryLockRequest.schema.Takes levels b a (a.join b) :=
  .cons (Field.takes_text (fun _ => rfl) (by omega)) <|
  .cons (Field.takes_optionalInt32 (fun m v => { m with lease := v }) (fun _ _ => rfl)
    fun _ => rfl) <|
  .cons (Field.takes_optionalInt32 (fun m v => { m with size := v }) (fun _ _ => rfl)
    fun _ => rfl) .nil

theorem RefreshLockRequest.takes_join {levels : Nat} (a : RefreshLockRequest)
    {b : RefreshLockRequest} (hname : b.name.utf8ByteSize < 2 ^ 63)
    (hkey : b.key.utf8ByteSize < 2 ^ 63) :
    RefreshLockRequest.schema.Takes levels b a (a.join b) :=
  .cons (Field.takes_text (fun _ => rfl) (by omega)) <|
  .cons (Field.takes_text (fun _ => rfl) (by show b.key.utf8ByteSize < _; omega)) <|
  .cons (Field.takes_int32 fun _ => rfl) .nil

theorem UnlockRequest.takes_join {levels : Nat} (a : UnlockRequest) {b : UnlockRequest}
    (hname : b.name.utf8ByteSize < 2 ^ 63) (hkey : b.key.utf8ByteSize < 2 ^ 63) :
    UnlockRequest.schema.Takes levels b a (a.join b) :=
  .cons (Field.takes_text (fun _ => rfl) (by omega)) <|
  .cons (Field.takes_text (fun _ => rfl) (by omega)) .nil

/-- The error of a response, with whatever error there already is. -/
theorem takes_error {α : Type} {tag levels : Nat} {name : String} {get : α → Option RpcError}
    {set : α → RpcError → α} {a b : α} (put : α → Option RpcError → α)
    (hset : ∀ m v, set m v = put m (some v)) (hput : ∀ m, put m (get m) = m)
    (hb : ∀ e, get b = some e → e.message.utf8ByteSize < 2 ^ 63) :
    (Field.nested tag name RpcError.schema get set).Takes (levels + 1) b a
      (put a (Option.merge RpcError.join (get a) (get b))) :=
  Field.takes_nested put hset hput RpcError.sound_schema
    (fun e he => RpcError.length_encode_lt (hb e he)) RpcError.join_empty
    fun u e he => u.takes_join (hb e he)

theorem LockResponse.takes_join {levels : Nat} (a : LockResponse) {b : LockResponse}
    (hname : b.name.utf8ByteSize < 2 ^ 63) (hkey : b.key.utf8ByteSize < 2 ^ 63)
    (herror : ∀ e, b.error = some e → e.message.utf8ByteSize < 2 ^ 63) :
    LockResponse.schema.Takes (levels + 1) b a (a.join b) :=
  .cons (Field.takes_flag fun _ => rfl) <|
  .cons (Field.takes_text (fun _ => rfl) (by omega)) <|
  .cons (Field.takes_text (fun _ => rfl) (by omega)) <|
  .cons (takes_error (fun m v => { m with error := v }) (fun _ _ => rfl) (fun _ => rfl) herror) .nil

theorem UnlockResponse.takes_join {levels : Nat} (a : UnlockResponse) {b : UnlockResponse}
    (hname : b.name.utf8ByteSize < 2 ^ 63)
    (herror : ∀ e, b.error = some e → e.message.utf8ByteSize < 2 ^ 63) :
    UnlockResponse.schema.Takes (levels + 1) b a (a.join b) :=
  .cons (Field.takes_flag fun _ => rfl) <|
  .cons (Field.takes_text (fun _ => rfl) (by omega)) <|
  .cons (takes_error (fun m v => { m with error := v }) (fun _ _ => rfl) (fun _ => rfl) herror) .nil

namespace MessageType

/-- The induction over the fields has been done for all tables; here one
case for each type. -/
theorem takes_join {levels : Nat} {t : MessageType} (a : t.Value) {b : t.Value}
    (hb : t.Storable b) : t.schema.Takes (levels + 1) b a (t.join a b) := by
  cases t with
  | rpcError => exact RpcError.takes_join a (hb _ List.mem_cons_self)
  | lockRequest => exact LockRequest.takes_join a (hb _ List.mem_cons_self)
  | tryLockRequest => exact TryLockRequest.takes_join a (hb _ List.mem_cons_self)
  | refreshLockRequest =>
      exact RefreshLockRequest.takes_join a (hb _ List.mem_cons_self)
        (hb _ (List.mem_cons_of_mem _ List.mem_cons_self))
  | unlockRequest =>
      exact UnlockRequest.takes_join a (hb _ List.mem_cons_self)
        (hb _ (List.mem_cons_of_mem _ List.mem_cons_self))
  | lockResponse =>
      apply LockResponse.takes_join a (hb _ List.mem_cons_self)
        (hb _ (List.mem_cons_of_mem _ List.mem_cons_self))
      intro e he
      exact hb _ (by simp [texts, he])
  | unlockResponse =>
      apply UnlockResponse.takes_join a (hb _ List.mem_cons_self)
      intro e he
      exact hb _ (by simp [texts, he])

theorem join_empty (t : MessageType) (b : t.Value) : t.join t.schema.empty b = b := by
  cases t with
  | rpcError => exact RpcError.join_empty b
  | lockRequest => exact LockRequest.join_empty b
  | tryLockRequest => exact TryLockRequest.join_empty b
  | refreshLockRequest => exact RefreshLockRequest.join_empty b
  | unlockRequest => exact UnlockRequest.join_empty b
  | lockResponse => exact LockResponse.join_empty b
  | unlockResponse => exact UnlockResponse.join_empty b

/-- What is decoded is what was encoded, read into the empty message. -/
theorem decode_of_storable {t : MessageType} {m : t.Value} (hm : t.Storable m) :
    t.schema.decode (t.schema.encode m) = .ok m := by
  have hmerge := Schema.merge_encode t.sound_schema (takes_join t.schema.empty hm)
  rwa [join_empty] at hmerge

/-- **Round trip.** Every message is read back from its bytes, and its size
is their number. -/
theorem decode_encode (t : MessageType) (m : t.Value) :
    t.schema.size m = (t.schema.encode m).length ∧
      (t.Storable m → t.schema.decode (t.schema.encode m) = .ok m) := by
  constructor
  · exact t.sound_schema.size_eq m
  · exact decode_of_storable

/-- A refusal whose number is no code and takes ten bytes. -/
theorem decode_encode_refusal :
    lockResponse.schema.decode (LockResponse.schema.encode ⟨false, "job-42", "", some ⟨-7, ""⟩⟩) =
      .ok (LockResponse.mk false "job-42" "" (some ⟨-7, ""⟩)) := by
  apply (decode_encode lockResponse (LockResponse.mk false "job-42" "" (some ⟨-7, ""⟩))).2
  intro x hx
  have htexts : x ∈ ["job-42", "", ""] := hx
  simp only [List.mem_cons, List.not_mem_nil, or_false] at htexts
  rcases htexts with rfl | rfl | rfl <;> decide

/-- **Concatenation.** Bytes behind a message that can be read are merged
into it, with the same result and the same error; and where both parts are
encodings, the result is their field-wise merge. -/
theorem decode_append (t : MessageType) :
    (∀ (x y : Bytes) (m : t.Value), t.schema.decode x = .ok m →
        t.schema.decode (x ++ y) = t.schema.merge m y) ∧
      ∀ a b : t.Value, t.Storable a → t.Storable b →
        t.schema.decode (t.schema.encode a ++ t.schema.encode b) = .ok (t.join a b) := by
  have hconcat (x y : Bytes) (m : t.Value) (h : t.schema.decode x = .ok m) :
      t.schema.decode (x ++ y) = t.schema.merge m y :=
    Schema.merge_append t.sound_schema.isLocal h
  refine ⟨hconcat, ?_⟩
  intro a b ha hb
  rw [hconcat _ _ a (decode_of_storable ha)]
  exact Schema.merge_encode t.sound_schema (takes_join a hb)

/-- A refusal behind which a field is cut off, and two refusals
that add up to one. -/
theorem decode_append_refusals :
    lockResponse.schema.decode ([34, 2, 8, 3] ++ [34, 1, 8]) =
        LockResponse.schema.merge { error := some ⟨3, ""⟩ } [34, 1, 8] ∧
      lockResponse.schema.decode (LockResponse.schema.encode { error := some ⟨3, ""⟩ } ++
          LockResponse.schema.encode { name := "job-42", error := some ⟨0, "timeout"⟩ }) =
        .ok (LockResponse.mk false "job-42" "" (some ⟨3, "timeout"⟩)) := by
  have hall := decode_append lockResponse
  constructor
  · exact hall.1 [34, 2, 8, 3] [34, 1, 8] (LockResponse.mk false "" "" (some ⟨3, ""⟩)) rfl
  · apply hall.2 (LockResponse.mk false "" "" (some ⟨3, ""⟩))
      (LockResponse.mk false "job-42" "" (some ⟨0, "timeout"⟩))
    · intro x hx
      have htexts : x ∈ ["", "", ""] := hx
      simp only [List.mem_cons, List.not_mem_nil, or_false, or_self] at htexts
      subst htexts
      decide
    · intro x hx
      have htexts : x ∈ ["job-42", "", "timeout"] := hx
      simp only [List.mem_cons, List.not_mem_nil, or_false] at htexts
      rcases htexts with rfl | rfl | rfl <;> decide

end MessageType

end DistLock
