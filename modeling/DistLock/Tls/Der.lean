/-!
# Tagged values

Certificates and keys are trees of values. Each value has a tag, a length and
a content, which for some tags is a row of values again. There is one way to
write a value: a length takes as few bytes as it can, and so does a number.

All readers take bytes from the front and return the rest.
-/

namespace DistLock.Der

namespace Tag

def boolean : UInt8 := 0x01
def integer : UInt8 := 0x02
def bitString : UInt8 := 0x03
def octetString : UInt8 := 0x04
def objectId : UInt8 := 0x06
def sequence : UInt8 := 0x30

/-- The tag of a field that is marked with a number. -/
def marked (n : UInt8) : UInt8 := 0xA0 + n

end Tag

/-! ## Reading -/

/-- The number that bytes are, the highest first. -/
def number (bs : List UInt8) : Nat := bs.foldl (fun n b => 256 * n + b.toNat) 0

/-- A length: up to 127 it is one byte, and from there on the number of its
bytes comes first. -/
def readLength? : List UInt8 → Option (Nat × List UInt8)
  | 0x81 :: a :: bs => if 0x80 ≤ a then some (a.toNat, bs) else none
  | 0x82 :: a :: b :: bs => if a = 0 then none else some (number [a, b], bs)
  | a :: bs => if a < 0x80 then some (a.toNat, bs) else none
  | [] => none

/-- The content of a value with the given tag. -/
def read? (tag : UInt8) : List UInt8 → Option (List UInt8 × List UInt8)
  | [] => none
  | t :: bs =>
    if t = tag then
      (readLength? bs).bind fun (n, bs) =>
        if n ≤ bs.length then some (bs.take n, bs.drop n) else none
    else none

/-- The content of a value with the given tag that all the bytes are. -/
def whole? (tag : UInt8) (bs : List UInt8) : Option (List UInt8) :=
  match read? tag bs with
  | some (content, []) => some content
  | _ => none

/-- The content of a value with the given tag, if it stands at the front. -/
def optional? (tag : UInt8) (bs : List UInt8) : Option (Option (List UInt8) × List UInt8) :=
  if bs.head? = some tag then (read? tag bs).map fun (content, rest) => (some content, rest)
  else some (none, bs)

/-- A number that is not negative. -/
def readNat? (bs : List UInt8) : Option (Nat × List UInt8) :=
  match read? Tag.integer bs with
  | some ([0], rest) => some (0, rest)
  | some (0 :: a :: as, rest) => if 0x80 ≤ a then some (number (a :: as), rest) else none
  | some (a :: as, rest) => if a < 0x80 then some (number (a :: as), rest) else none
  | _ => none

/-- The bytes of a row of bits that fills them. -/
def bits? : List UInt8 → Option (List UInt8)
  | 0 :: bs => some bs
  | _ => none

/-! ## Writing -/

/-- The lowest `count` bytes of a number, the highest first. -/
def lowBytes : (count : Nat) → Nat → List UInt8
  | 0, _ => []
  | count + 1, n => lowBytes count (n / 256) ++ [.ofNat n]

/-- The bytes of a number, the highest first, without zeros at the front. -/
def bytes (n : Nat) : List UInt8 := if n = 0 then [] else lowBytes (n.log2 / 8 + 1) n

def writeLength (n : Nat) : List UInt8 :=
  if n < 0x80 then [.ofNat n] else .ofNat (0x80 + (bytes n).length) :: bytes n

def write (tag : UInt8) (content : List UInt8) : List UInt8 :=
  tag :: writeLength content.length ++ content

/-- A number; a zero in front keeps its highest bit from being a sign. -/
def writeNat (n : Nat) : List UInt8 :=
  let bs := bytes n
  write Tag.integer (if bs.head?.all (0x80 ≤ ·) then 0 :: bs else bs)

/-- A row of bits that fills its bytes. -/
def writeBits (bs : List UInt8) : List UInt8 := write Tag.bitString (0 :: bs)

end DistLock.Der
