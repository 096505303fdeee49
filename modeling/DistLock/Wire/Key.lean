import DistLock.Wire.Varint

/-!
# Keys and unknown fields

A field starts with a key, which holds its tag and the layout of its value.
`skip` passes over the value of a field that the reader does not know:
groups are followed to the end tag that closes them, and each group takes
one of the levels that limit the nesting.
-/

namespace DistLock.Wire

/-- The levels of messages and groups that a reader follows. -/
def maxLevels : Nat := 100

/-- The key of the field `tag` with layout `w`. -/
def writeKey (tag : Nat) (w : WireType) : Bytes := writeVarint (8 * tag + w.code)

/-- Reads a key: a number of 32 bits with a known layout and a tag
other than zero. -/
def readKey (bs : Bytes) : Except Fault (Nat × WireType × Bytes) := do
  let (key, rest) ← readVarint bs
  if Nat.pow 2 32 ≤ key then throw (.invalidKey key)
  match WireType.ofCode? (key % 8) with
  | none => throw (.unknownWireType (key % 8))
  | some w => if key / 8 = 0 then throw .zeroTag else pure (key / 8, w, rest)

/-- Passes over `n` bytes. -/
def skipBytes (n : Nat) (bs : Bytes) : Except Fault Bytes :=
  if bs.length < n then .error .underflow else .ok (bs.drop n)

/-- Passes over the fields of the open group `tag` and its end tag. Every
field takes a byte or more, so as many rounds as there are bytes suffice,
and when none are left the next key is cut off. -/
def skipGroup (skip : Nat → WireType → Bytes → Except Fault Bytes) (tag : Nat) :
    (rounds : Nat) → Bytes → Except Fault Bytes
  | 0, _ => .error .invalidVarint
  | rounds + 1, bs =>
    match readKey bs with
    | .error e => .error e
    | .ok (inner, .endGroup, rest) => if inner = tag then .ok rest else .error .strayEndGroup
    | .ok (inner, w, rest) =>
      match skip inner w rest with
      | .error e => .error e
      | .ok rest => skipGroup skip tag rounds rest

/-- Passes over the value of an unknown field, with `levels`
left for nesting. -/
def skip : (levels : Nat) → (tag : Nat) → WireType → Bytes → Except Fault Bytes
  | 0, _, _, _ => .error .tooDeep
  | _ + 1, _, .varint, bs => (readVarint bs).map (·.2)
  | _ + 1, _, .sixtyFourBit, bs => skipBytes 8 bs
  | _ + 1, _, .thirtyTwoBit, bs => skipBytes 4 bs
  | _ + 1, _, .lengthDelimited, bs =>
    match readVarint bs with
    | .error e => .error e
    | .ok (n, rest) => skipBytes n rest
  | levels + 1, tag, .startGroup, bs => skipGroup (skip levels) tag (bs.length + 1) bs
  | _ + 1, _, .endGroup, _ => .error .strayEndGroup

end DistLock.Wire
