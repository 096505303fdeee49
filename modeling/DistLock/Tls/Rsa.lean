import DistLock.Tls.Der

/-!
# Keys of two primes

A key is a product of two primes with exponents for both directions, and
numbers made from these that speed up its use. A key that is sound in form is
accepted if its parts fit together; that the primes are primes is not checked.
-/

namespace DistLock

structure RsaKey where
  modulus : Nat
  publicExponent : Nat
  privateExponent : Nat
  prime1 : Nat
  prime2 : Nat
  /-- The private exponent as it is used modulo either prime. -/
  exponent1 : Nat
  exponent2 : Nat
  /-- The inverse of the second prime modulo the first. -/
  coefficient : Nat
  deriving DecidableEq, Repr

namespace RsaKey

/-- The number of bits of a number. -/
def bitLength (n : Nat) : Nat := if n = 0 then 0 else n.log2 + 1

/-- The public exponent is odd, and neither too small nor too large. -/
def isExponent (e : Nat) : Bool := 65537 ≤ e && e < Nat.pow 2 33 && e % 2 == 1

/-- The primes have half the length of the modulus each, and it
is their product. -/
def areFactors (k : RsaKey) : Bool :=
  let half := (bitLength k.modulus + 1) / 2
  bitLength k.prime1 == half && bitLength k.prime2 == half && half % 512 == 0
    && k.prime1 * k.prime2 == k.modulus

/-- The parts of the key fit together. -/
def isSound (k : RsaKey) : Bool :=
  let bits := bitLength k.modulus
  2041 ≤ bits && bits ≤ 4096 && isExponent k.publicExponent && areFactors k
    && k.privateExponent % 2 == 1 && k.privateExponent < k.modulus
    && (bits + 1) / 2 < bitLength k.privateExponent
    && k.exponent1 % 2 == 1 && k.exponent1 < k.prime1
    && k.exponent2 % 2 == 1 && k.exponent2 < k.prime2
    && k.coefficient < k.prime1 && k.coefficient * k.prime2 % k.prime1 == 1

/-- The key in a row of numbers, of which the first says that there
are two primes. -/
def ofNumbers? : List Nat → Option RsaKey
  | [0, n, e, d, p, q, dp, dq, c] => some ⟨n, e, d, p, q, dp, dq, c⟩
  | _ => none

/-- The numbers in a row. Every number takes a byte or more. -/
def readNumbers? : (rounds : Nat) → List UInt8 → Option (List Nat)
  | 0, bs => if bs.isEmpty then some [] else none
  | rounds + 1, bs =>
    if bs.isEmpty then some []
    else (Der.readNat? bs).bind fun (n, rest) => (readNumbers? rounds rest).map (n :: ·)

/-- The sound key that bytes are. -/
def read? (bs : List UInt8) : Option RsaKey := do
  let content ← Der.whole? Der.Tag.sequence bs
  let k ← ofNumbers? (← readNumbers? content.length content)
  if k.isSound then some k else none

/-- The public half of the key. -/
def publicKey (k : RsaKey) : List UInt8 :=
  Der.write Der.Tag.sequence (Der.writeNat k.modulus ++ Der.writeNat k.publicExponent)

end RsaKey

end DistLock
