/-!
# Text from bytes that may not be text

Decodes UTF-8. Bytes that belong to no character are replaced: each longest
piece that could have been the beginning of a character becomes one
replacement character.
-/

namespace DistLock.Text

/-- The replacement character. -/
def replacement : Char := '\uFFFD'

/-- The continuation bytes that can follow a first byte: how many there are,
and the range of the first of them. -/
def followers? (b : UInt8) : Option (Nat × UInt8 × UInt8) :=
  if 0xC2 ≤ b && b ≤ 0xDF then some (1, 0x80, 0xBF)
  else if b == 0xE0 then some (2, 0xA0, 0xBF)
  else if b == 0xED then some (2, 0x80, 0x9F)
  else if 0xE1 ≤ b && b ≤ 0xEF then some (2, 0x80, 0xBF)
  else if b == 0xF0 then some (3, 0x90, 0xBF)
  else if b == 0xF4 then some (3, 0x80, 0x8F)
  else if 0xF1 ≤ b && b ≤ 0xF3 then some (3, 0x80, 0xBF)
  else none

/-- The bits of the code point that a first byte holds. -/
def leadBits (b : UInt8) (followers : Nat) : Nat := b.toNat % Nat.pow 2 (6 - followers)

/-- Takes up to `n` continuation bytes, the first of them in a range, and
adds their bits to a code point. Returns how many are missing. -/
def takeFollowers : (n : Nat) → (low high : UInt8) → (code : Nat) → List UInt8 →
    Nat × Nat × List UInt8
  | 0, _, _, code, bs => (0, code, bs)
  | n + 1, _, _, code, [] => (n + 1, code, [])
  | n + 1, low, high, code, b :: bs =>
    if low ≤ b && b ≤ high then takeFollowers n 0x80 0xBF (64 * code + b.toNat % 64) bs
    else (n + 1, code, b :: bs)

/-- Decodes up to `rounds` characters. -/
def decodeLossyWithin : (rounds : Nat) → List UInt8 → List Char
  | 0, _ => []
  | _ + 1, [] => []
  | rounds + 1, b :: bs =>
    if b < 0x80 then Char.ofNat b.toNat :: decodeLossyWithin rounds bs
    else
      match followers? b with
      | none => replacement :: decodeLossyWithin rounds bs
      | some (n, low, high) =>
        match takeFollowers n low high (leadBits b n) bs with
        | (0, code, rest) => Char.ofNat code :: decodeLossyWithin rounds rest
        | (_, _, rest) => replacement :: decodeLossyWithin rounds rest

/-- The text that bytes stand for. -/
def decodeLossy (bs : List UInt8) : String := String.ofList (decodeLossyWithin bs.length bs)

end DistLock.Text
