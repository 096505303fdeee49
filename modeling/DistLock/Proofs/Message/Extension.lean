import DistLock.Proofs.Message.Responses
import DistLock.Proofs.Wire.Unknown

/-!
# Fields that a message type does not know

A later version of the service may write fields under tags that a message
type does not list. Such a field may stand wherever a field can begin, in a
message or in the decision inside a response, and decoding gives the same
message, or the same error, as without it (`decode_unknown`).
-/

namespace DistLock

open Wire

namespace MessageType

/-- **Unknown fields change nothing.** A well-formed field under a tag
that the message type does not know may stand behind any bytes that
decode, and, with one level less for nesting, behind any contents of a
decision that can be merged; what follows is decoded to the same message
or to the same error as without it. -/
theorem decode_unknown {x y u : Bytes} {tag : Nat} :
    (∀ (t : MessageType) (m : t.Value), t.schema.decode x = .ok m → IsField maxLevels tag u →
        tag ∉ t.schema.fields.map (·.tag) →
        t.schema.decode (x ++ (u ++ y)) = t.schema.decode (x ++ y)) ∧
      ∀ (r : ResponseType) (m : r.messageType.Value) (p q : Bytes) (e : RpcError),
        r.messageType.schema.decode x = .ok m → r.mergeError m p = .ok e →
        IsField (maxLevels - 1) tag u → tag ∉ RpcError.schema.fields.map (·.tag) →
        (p ++ (u ++ q)).length < 2 ^ 64 →
        r.messageType.schema.decode (x ++ (r.errorField (p ++ (u ++ q)) ++ y)) =
          r.messageType.schema.decode (x ++ (r.errorField (p ++ q) ++ y)) := by
  constructor
  · intro t m hx hu htag
    have hs := t.sound_schema.isLocal
    have hconcat (z : Bytes) : t.schema.decode (x ++ z) = t.schema.merge m z :=
      Schema.merge_append hs hx
    rw [hconcat, hconcat]
    exact Schema.mergeWithin_unknown hs hu htag y
  · intro r m p q e hx hp hu htag hlen
    have hs := r.messageType.sound_schema
    have hconcat (z : Bytes) : r.messageType.schema.decode (x ++ z) =
        r.messageType.schema.merge m z := Schema.merge_append hs.isLocal hx
    have hless : (p ++ q).length < 2 ^ 64 := by
      simp only [List.length_append] at hlen ⊢
      omega
    rw [hconcat, hconcat]
    exact Schema.mergeWithin_writeContents_congr hs r.nested_mem_fields hlen hless
      (Field.readContents_unknown RpcError.sound_schema.isLocal hp hu htag)

/-- A group in a group under the tag 7, and a text under the tag 3 of a
decision, which is cut off behind them. -/
theorem decode_unknown_group :
    UnlockRequest.schema.decode ([10, 0] ++ ([59, 67, 8, 5, 68, 60] ++ [18])) =
        UnlockRequest.schema.decode ([10, 0] ++ [18]) ∧
      LockResponse.schema.decode
          ([8, 1] ++ (ResponseType.lock.errorField ([8, 3] ++ ([26, 1, 97] ++ [16])) ++ [])) =
        LockResponse.schema.decode
          ([8, 1] ++ (ResponseType.lock.errorField ([8, 3] ++ [16]) ++ [])) := by
  have hbyte (n : Nat) (h : n < 128) : IsNumber n [UInt8.ofNat n] := by
    rw [← writeVarint_of_lt h]
    exact isNumber_writeVarint (by omega)
  have hkey (tag : Nat) (w : WireType) (hpos : 0 < tag) (hlt : tag < 15) :
      IsKey tag w [UInt8.ofNat (8 * tag + w.code)] := by
    have hcode := w.code_lt
    exact ⟨hpos, by omega, hbyte _ (by omega)⟩
  have hinner : IsField 98 1 [8, 5] :=
    .varint (hkey 1 .varint (by decide) (by decide)) (hbyte 5 (by decide))
  have hmiddle : IsField 99 8 [67, 8, 5, 68] :=
    .group [(1, [8, 5])] (hkey 8 .startGroup (by decide) (by decide))
      (List.forall_mem_singleton.2 hinner) (hkey 8 .endGroup (by decide) (by decide))
  have houter : IsField 100 7 [59, 67, 8, 5, 68, 60] :=
    .group [(8, [67, 8, 5, 68])] (hkey 7 .startGroup (by decide) (by decide))
      (List.forall_mem_singleton.2 hmiddle) (hkey 7 .endGroup (by decide) (by decide))
  have htext : IsField 99 3 [26, 1, 97] :=
    .lengthDelimited (hkey 3 .lengthDelimited (by decide) (by decide))
      (hbyte [(97 : UInt8)].length (by decide))
  constructor
  · exact decode_unknown.1 .unlockRequest {} rfl houter (by decide)
  · exact decode_unknown.2 .lock { locked := true } [8, 3] [16] ⟨3, ""⟩ rfl rfl htext (by decide)
      (by decide)

end MessageType

end DistLock
