/-!
# Base64

Bytes written as characters of an alphabet of sixty-four, four for every
three bytes. Blanks and line ends may stand anywhere. The last group may be
shorter; if so, it is filled up with `=` or left as it is. Bits that are
left over there are not looked at.
-/

namespace DistLock.Base64

/-- The blanks of ASCII. -/
def isBlank (b : UInt8) : Bool := b == 0x20 || (0x09 ≤ b && b ≤ 0x0D)

/-- The six bits that a character stands for. -/
def value? (b : UInt8) : Option Nat :=
  if 0x41 ≤ b ∧ b ≤ 0x5A then some (b.toNat - 0x41)
  else if 0x61 ≤ b ∧ b ≤ 0x7A then some (b.toNat - 0x61 + 26)
  else if 0x30 ≤ b ∧ b ≤ 0x39 then some (b.toNat - 0x30 + 52)
  else if b = 0x2B then some 62
  else if b = 0x2F then some 63
  else none

/-- The bytes of a row of six-bit values. Of the last group, two values are
one byte and three values are two. -/
def join : List Nat → List UInt8
  | a :: b :: c :: d :: rest =>
    let n := ((a * 64 + b) * 64 + c) * 64 + d
    .ofNat (n / 65536) :: .ofNat (n / 256) :: .ofNat n :: join rest
  | [a, b, c] =>
    let n := (a * 64 + b) * 64 + c
    [.ofNat (n / 1024), .ofNat (n / 4)]
  | [a, b] => [.ofNat ((a * 64 + b) / 16)]
  | _ => []

/-- The last group has `values` values and `fill` characters to fill it up. -/
def isEnd (values fill : Nat) : Bool :=
  fill == 0 && values % 4 != 1 || fill != 0 && 2 ≤ values % 4 && values % 4 + fill == 4

/-- The bytes that a text stands for. -/
def decode? (text : List UInt8) : Option (List UInt8) :=
  let text := text.filter (!isBlank ·)
  let fill := text.dropWhile (· != 0x3D)
  match (text.takeWhile (· != 0x3D)).mapM value? with
  | some values =>
    if fill.all (· == 0x3D) && isEnd values.length fill.length then some (join values) else none
  | none => none

end DistLock.Base64
