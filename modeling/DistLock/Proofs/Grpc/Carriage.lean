import DistLock.Grpc.Call
import DistLock.Proofs.Message.Merge

/-!
# What a call carries

The other end of a call: how a service reads the request that it sees
(`HttpRequest.read?`), and the reply in which its answer goes back
(`Verdict.reply`). The two ends fit together as long as the length of a
request has its place in the frame and a response is not too long to be
received: the service reads the very request that was made
(`read?_requestOf`), and its answer is what the call returns
(`answerOf_reply`). A longer response is never taken in, whatever stands
behind it (`read_of_receiveLimit_lt`).

The paths and the types of the messages stand here as the service has them,
so a call with another path or another type would not be read.
-/

namespace DistLock

open Wire

/-! ## Sizes -/

/-- A field is no larger than the message. -/
theorem Wire.Schema.size_field_le {α : Type} {s : Schema α} {f : Field α} (hf : f ∈ s.fields)
    (m : α) : f.size m ≤ s.size m := by
  have hsum (fs : List (Field α)) (hf : f ∈ fs) :
      f.size m ≤ fs.foldr (fun g n => g.size m + n) 0 := by
    induction fs with
    | nil => cases hf
    | cons g gs ih =>
        rw [List.foldr_cons]
        rcases List.mem_cons.1 hf with rfl | hf
        · exact Nat.le_add_right _ _
        · exact Nat.le_trans (ih hf) (Nat.le_add_left _ _)
  exact hsum s.fields hf

theorem Wire.Field.le_size_text {α : Type} {tag : Nat} {name : String} {get : α → String}
    {set : α → String → α} (m : α) : (get m).utf8ByteSize ≤ (text tag name get set).size m := by
  show _ ≤ if get m = "" then 0 else _
  split
  · rename_i hempty
    rw [hempty]
    exact Nat.zero_le _
  · exact Nat.le_add_left _ _

theorem Wire.Field.le_size_nested {α β : Type} {tag : Nat} {name : String} {inner : Schema β}
    {get : α → Option β} {set : α → β → α} {m : α} {v : β} (h : get m = some v) :
    inner.size v ≤ (nested tag name inner get set).size m := by
  show _ ≤ (get m).elim 0 _
  rw [h]
  exact Nat.le_add_left _ _

/-- The decision in a response has no text that is larger than its field. -/
theorem RpcError.le_size_nested {α : Type} {tag : Nat} {name x : String} {get : α → Option RpcError}
    {set : α → RpcError → α} {m : α} (hx : x ∈ ((get m).map (·.message)).toList) :
    x.utf8ByteSize ≤ (Field.nested tag name RpcError.schema get set).size m := by
  obtain ⟨e, he, rfl⟩ := Option.map_eq_some_iff.1 (Option.mem_toList.1 hx)
  have htext : e.message.utf8ByteSize ≤ RpcError.schema.size e :=
    Nat.le_trans (Field.le_size_text e) (Schema.size_field_le (.tail _ (.head _)) e)
  exact Nat.le_trans htext (Field.le_size_nested he)

/-- The texts of a message are no larger than its encoding. -/
theorem MessageType.utf8ByteSize_le_length {t : MessageType} {m : t.Value} {x : String}
    (hx : x ∈ t.texts m) : x.utf8ByteSize ≤ (t.schema.encode m).length := by
  rw [← t.sound_schema.size_eq]
  have hfield {f : Wire.Field t.Value} (hf : f ∈ t.schema.fields)
      (hle : x.utf8ByteSize ≤ f.size m) : x.utf8ByteSize ≤ t.schema.size m :=
    Nat.le_trans hle (Schema.size_field_le hf m)
  cases t with
  | rpcError =>
      obtain rfl := List.mem_singleton.1 hx
      exact hfield (.tail _ (.head _)) (Field.le_size_text m)
  | lockRequest | tryLockRequest =>
      obtain rfl := List.mem_singleton.1 hx
      exact hfield (.head _) (Field.le_size_text m)
  | refreshLockRequest | unlockRequest =>
      rcases List.mem_cons.1 hx with rfl | hx
      · exact hfield (.head _) (Field.le_size_text m)
      · obtain rfl := List.mem_singleton.1 hx
        exact hfield (.tail _ (.head _)) (Field.le_size_text m)
  | lockResponse =>
      rcases List.mem_cons.1 hx with rfl | hx
      · exact hfield (.tail _ (.head _)) (Field.le_size_text m)
      rcases List.mem_cons.1 hx with rfl | hx
      · exact hfield (.tail _ (.tail _ (.head _))) (Field.le_size_text m)
      · exact hfield (.tail _ (.tail _ (.tail _ (.head _)))) (RpcError.le_size_nested hx)
  | unlockResponse =>
      rcases List.mem_cons.1 hx with rfl | hx
      · exact hfield (.tail _ (.head _)) (Field.le_size_text m)
      · exact hfield (.tail _ (.tail _ (.head _))) (RpcError.le_size_nested hx)

/-- A message whose length has its place in a frame is read back. -/
theorem MessageType.decode_of_length_lt {t : MessageType} {m : t.Value}
    (h : (t.schema.encode m).length < 2 ^ 32) : t.schema.decode (t.schema.encode m) = .ok m := by
  refine t.decode_of_storable fun x hx => ?_
  have hle := t.utf8ByteSize_le_length hx
  omega

/-! ## Requests by their types -/

/-- The type of the request for an operation. -/
def Operation.requestType : Operation → MessageType
  | .lock => .lockRequest
  | .tryLock => .tryLockRequest
  | .refreshLock => .refreshLockRequest
  | .unlock => .unlockRequest

/-- The type of the response to an operation. -/
def Operation.responseType : Operation → MessageType
  | .lock | .tryLock | .refreshLock => .lockResponse
  | .unlock => .unlockResponse

namespace Request

/-- The message of a request. -/
def message : (q : Request) → q.operation.requestType.Value
  | .lock r => r
  | .tryLock r => r
  | .refreshLock r => r
  | .unlock r => r

/-- The request for an operation with a message. -/
def ofMessage : (o : Operation) → o.requestType.Value → Request
  | .lock => .lock
  | .tryLock => .tryLock
  | .refreshLock => .refreshLock
  | .unlock => .unlock

/-- The request for an operation, with its message in bytes. -/
def ofBytes? (o : Operation) (bytes : Bytes) : Option Request :=
  (o.requestType.schema.decode bytes).toOption.map (ofMessage o)

/-- The length of the message has its place in a frame. -/
def Fits (q : Request) : Prop := q.encode.length < 2 ^ 32

instance (q : Request) : Decidable q.Fits := inferInstanceAs (Decidable (_ < _))

variable {q : Request}

theorem encode_eq (q : Request) : q.encode = q.operation.requestType.schema.encode q.message := by
  cases q <;> rfl

theorem ofMessage_message (q : Request) : ofMessage q.operation q.message = q := by
  cases q <;> rfl

theorem ofBytes?_encode (hq : q.Fits) : ofBytes? q.operation q.encode = some q := by
  unfold Fits at hq
  rw [q.encode_eq] at hq ⊢
  rw [ofBytes?, MessageType.decode_of_length_lt hq]
  exact congrArg some q.ofMessage_message

end Request

namespace Grpc

variable {o : Operation} {q : Request} {c : Channel}

/-! ## What a service sees -/

theorem unframe?_frame {message : Bytes} (h : message.length < 2 ^ 32) :
    unframe? (frame message) = some message := by
  simp only [frame, fourBytes, List.cons_append, List.nil_append, unframe?, UInt8.toNat_ofNat',
    Nat.pow_eq]
  -- the four bytes are the digits of the length
  rw [if_pos (by omega)]

/-- The operation at a path. -/
def operationAt? : String → Option Operation
  | "/ldlm.LDLM/Lock" => some .lock
  | "/ldlm.LDLM/TryLock" => some .tryLock
  | "/ldlm.LDLM/RefreshLock" => some .refreshLock
  | "/ldlm.LDLM/Unlock" => some .unlock
  | _ => none

theorem operationAt?_pathOf (o : Operation) : operationAt? (pathOf o) = some o := by
  cases o <;> rfl

/-- The request that a service finds in what it sees. -/
def HttpRequest.read? (h : HttpRequest) : Option Request :=
  if h.method = "POST" then
    match operationAt? h.path, unframe? h.body with
    | some o, some bytes => Request.ofBytes? o bytes
    | _, _ => none
  else none

/-- The service reads the request that was made. -/
theorem read?_requestOf (c : Channel) (hq : q.Fits) : (requestOf c q).read? = some q := by
  simp only [HttpRequest.read?, requestOf, if_true, operationAt?_pathOf, unframe?_frame hq,
    Request.ofBytes?_encode hq]

/-- `Carries credentials q h`: `h` is the call of a client with these
credentials for `q`. -/
structure Carries (credentials : List Bytes) (q : Request) (h : HttpRequest) : Prop where
  operation : operationAt? h.path = some q.operation
  authorization : h.authorization = credentials
  message : h.read? = some q

theorem carries_requestOf (c : Channel) (hq : q.Fits) :
    Carries c.authorization.toList q (requestOf c q) where
  operation := operationAt?_pathOf q.operation
  authorization := rfl
  message := read?_requestOf c hq

/-! ## What a service says -/

/-- A message that is too long ends the call with a failure. -/
theorem read_of_receiveLimit_lt {ρ : Type} (schema : Schema ρ) {bytes : Bytes}
    (trailers : List (String × String)) (h : receiveLimit < bytes.length) :
    (HttpReply.message (some bytes) trailers).read schema = .failure (tooLong bytes.length) := by
  simp only [HttpReply.read, if_pos h]

/-- What a service says to a call: a response that can be received, or
that it refuses. -/
inductive Verdict (o : Operation) where
  | response (m : o.responseType.Value)
      (fits : (o.responseType.schema.encode m).length ≤ receiveLimit)
  | refusal (code : StatusCode) (message : String) (failed : code ≠ .ok)

namespace Verdict

/-- The words of the service. -/
def said : Verdict o → Reply o.responseType.Value
  | .response m _ => .response m
  | .refusal code message _ => .failure { code, message }

/-- The answer that a caller is to get. -/
def answer : {q : Request} → Verdict q.operation → Answer
  | .lock _, v | .tryLock _, v => .acquired v.said
  | .refreshLock _, v => .refreshed v.said
  | .unlock _, v => .unlocked v.said

/-- The reply in which it goes back. -/
def reply : Verdict o → HttpReply
  | .response m _ => .message (some (o.responseType.schema.encode m)) [("grpc-status", "0")]
  | .refusal code message _ => .status code.toNat message

theorem read_reply (v : Verdict o) : v.reply.read o.responseType.schema = v.said := by
  cases v with
  | response m fits =>
      -- a status of zero is no failure, so the message counts
      have hstatus : (statusOf? [("grpc-status", "0")]).filter (·.code != .ok) = none := rfl
      have hdecode : o.responseType.schema.decode (o.responseType.schema.encode m) = .ok m :=
        MessageType.decode_of_length_lt (Nat.lt_of_le_of_lt fits (by decide))
      simp only [reply, HttpReply.read, hstatus, if_neg (Nat.not_lt.2 fits), hdecode, said]
  | refusal code message failed =>
      simp only [reply, HttpReply.read, StatusCode.ofInt_toNat, said]

/-- The caller gets the words of the service. -/
theorem answerOf_reply (v : Verdict q.operation) : answerOf q v.reply = v.answer := by
  cases q with
  | lock r | tryLock r => exact congrArg Answer.acquired v.read_reply
  | refreshLock r => exact congrArg Answer.refreshed v.read_reply
  | unlock r => exact congrArg Answer.unlocked v.read_reply

end Verdict

/-- A call through a channel that can carry it. -/
theorem Peer.call_of_isUsable (hc : c.isUsable = true) (v : Verdict q.operation) :
    (Peer.serving [v.reply]).call c q = (.serving [], some (requestOf c q), v.answer) := by
  simp only [Peer.call, hc, Bool.not_true, Bool.false_eq_true, if_false, v.answerOf_reply]

end Grpc

end DistLock
