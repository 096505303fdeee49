import DistLock.Proofs.Message.Merge
import DistLock.Proofs.Wire.Cut

/-!
# Decisions inside responses

A response carries a decision of the service as a nested message. Its
contents are merged into the decision that the response has already, just as
if they stood alone, and whatever is behind them is merged into the
response; contents that cannot be merged alone make the whole input
unreadable (`decode_errorField`).
-/

namespace DistLock

open Wire

/-- The message types in which the service can place a decision. -/
inductive ResponseType where
  | lock
  | unlock
  deriving DecidableEq, Repr

namespace ResponseType

def messageType : ResponseType → MessageType
  | .lock => .lockResponse
  | .unlock => .unlockResponse

/-- The tag of the decision. -/
def errorTag : ResponseType → Nat
  | .lock => 4
  | .unlock => 3

def error : (r : ResponseType) → r.messageType.Value → Option RpcError
  | .lock => fun (m : LockResponse) => m.error
  | .unlock => fun (m : UnlockResponse) => m.error

/-- The response with another decision. -/
def withError : (r : ResponseType) → r.messageType.Value → RpcError → r.messageType.Value
  | .lock => fun (m : LockResponse) e => { m with error := some e }
  | .unlock => fun (m : UnlockResponse) e => { m with error := some e }

/-- The field of the decision: its key, the length of the contents,
and the contents. -/
def errorField (r : ResponseType) (p : Bytes) : Bytes := Schema.writeContents r.errorTag p

/-- Merges contents, alone, into the decision of a response, with one level
less than the response has. -/
def mergeError (r : ResponseType) (m : r.messageType.Value) (p : Bytes) :
    Except DecodeError RpcError :=
  RpcError.schema.mergeWithin (maxLevels - 1) ((r.error m).getD {}) p

theorem nested_mem_fields (r : ResponseType) :
    Field.nested r.errorTag "error" RpcError.schema r.error r.withError ∈
      r.messageType.schema.fields := by
  cases r with
  | lock => exact .tail _ (.tail _ (.tail _ (.head _)))
  | unlock => exact .tail _ (.tail _ (.head _))

end ResponseType

theorem RpcError.isCuttable_schema : RpcError.schema.IsCuttable := by
  intro f hf
  simp only [RpcError.schema, List.mem_cons, List.not_mem_nil, or_false] at hf
  rcases hf with rfl | rfl
  · exact Field.isCuttable_int32 _ _ _ _
  · exact Field.isCuttable_text _ _ _ _

namespace ResponseType

/-- **A decision stays inside its field.** Behind bytes `x` that decode to
`m`, contents that can be merged alone into the decision of `m` become the
decision of the response, and what is behind them is merged into that;
contents that cannot be merged alone make the input unreadable, whatever
is behind them. -/
theorem decode_errorField (r : ResponseType) {x p : Bytes} {m : r.messageType.Value}
    (hx : r.messageType.schema.decode x = .ok m) (hp : p.length < 2 ^ 64) (y : Bytes) :
    (∀ e, r.mergeError m p = .ok e →
        r.messageType.schema.decode (x ++ (r.errorField p ++ y)) =
          r.messageType.schema.merge (r.withError m e) y) ∧
      ∀ fault, r.mergeError m p = .error fault →
        ∃ fault', r.messageType.schema.decode (x ++ (r.errorField p ++ y)) = .error fault' := by
  have hs := r.messageType.sound_schema
  have hconcat : r.messageType.schema.decode (x ++ (r.errorField p ++ y)) =
      r.messageType.schema.merge m (r.errorField p ++ y) := Schema.merge_append hs.isLocal hx
  rw [hconcat]
  constructor
  · intro e he
    exact Schema.mergeWithin_writeContents hs RpcError.isCuttable_schema r.nested_mem_fields hp he
  · intro fault hfault
    exact Schema.mergeWithin_writeContents_error hs RpcError.isCuttable_schema r.nested_mem_fields
      hp hfault

/-- A decision that is completed by a second one, and one whose text is in
the bytes behind it. -/
theorem decode_errorField_text :
    LockResponse.schema.decode ([34, 2, 8, 3] ++ (lock.errorField [18, 1, 97] ++ [8, 1])) =
        LockResponse.schema.merge { error := some ⟨3, "a"⟩ } [8, 1] ∧
      ∃ fault, LockResponse.schema.decode ([34, 2, 8, 3] ++ (lock.errorField [18, 1] ++ [97])) =
        .error fault := by
  have hx : LockResponse.schema.decode [34, 2, 8, 3] =
      .ok { error := some ⟨3, ""⟩ } := rfl
  constructor
  · exact (decode_errorField lock hx (by decide) [8, 1]).1 ⟨3, "a"⟩ rfl
  · exact (decode_errorField lock hx (by decide) [97]).2 ⟨.underflow, [⟨"RpcError", "message"⟩]⟩ rfl

end ResponseType

end DistLock
