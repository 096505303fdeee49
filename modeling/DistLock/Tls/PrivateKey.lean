import DistLock.Tls.Curve
import DistLock.Tls.Pem
import DistLock.Tls.Rsa
import DistLock.Tls.SeedKey

/-!
# Private keys

A private key can be used if it is sound and of a known algorithm: two primes,
a number on either elliptic curve, or a seed. From it follows the public key,
in the form in which certificates hold it, so that the two can be compared.

A key stands in a form of its algorithm alone, or in one for all
algorithms that names it.
-/

namespace DistLock.PrivateKey

/-! ## Algorithms -/

def rsaAlgorithm : List UInt8 :=
  [0x06, 0x09, 0x2A, 0x86, 0x48, 0x86, 0xF7, 0x0D, 0x01, 0x01, 0x01, 0x05, 0x00]

def curveAlgorithm (c : Curve) : List UInt8 :=
  [0x06, 0x07, 0x2A, 0x86, 0x48, 0xCE, 0x3D, 0x02, 0x01] ++ c.name

def seedAlgorithm : List UInt8 := [0x06, 0x03, 0x2B, 0x65, 0x70]

/-- A public key as certificates hold it. -/
def publicInfo (algorithm key : List UInt8) : List UInt8 :=
  Der.write Der.Tag.sequence algorithm ++ Der.writeBits key

/-! ## The form for all algorithms -/

/-- The parts of a key in the form for all algorithms. -/
structure Wrapped where
  version : Nat
  algorithm : List UInt8
  key : List UInt8
  /-- What comes after the attributes, which are passed over. -/
  rest : List UInt8
  deriving DecidableEq, Repr

def Wrapped.read? (bs : List UInt8) : Option Wrapped := do
  let (version, bs) ← Der.readNat? (← Der.whole? Der.Tag.sequence bs)
  let (algorithm, bs) ← Der.read? Der.Tag.sequence bs
  let (key, bs) ← Der.read? Der.Tag.octetString bs
  let (_, rest) ← Der.optional? (Der.Tag.marked 0) bs
  some { version, algorithm, key, rest }

/-- The key for an algorithm in the first version of the form, which has
nothing after it. -/
def unwrap? (algorithm bs : List UInt8) : Option (List UInt8) :=
  (Wrapped.read? bs).bind fun w =>
    if w.version = 0 ∧ w.algorithm = algorithm ∧ w.rest = [] then some w.key else none

/-! ## The public key -/

/-- The public key of a key of two primes. -/
def rsaPublic? (bs : List UInt8) : Option (List UInt8) :=
  (RsaKey.read? bs).map fun k => publicInfo rsaAlgorithm k.publicKey

/-- The public key of a key on a curve. The key holds it too, and may
name the curve. -/
def curvePublic? (c : Curve) (bs : List UInt8) : Option (List UInt8) := do
  let (version, bs) ← Der.readNat? (← Der.whole? Der.Tag.sequence bs)
  let (key, bs) ← Der.read? Der.Tag.octetString bs
  let (name, bs) ← Der.optional? (Der.Tag.marked 0) bs
  let bits ← Der.whole? Der.Tag.bitString (← Der.whole? (Der.Tag.marked 1) bs)
  let shown ← Der.bits? bits
  let n := Der.number key
  if version = 1 ∧ key.length = c.size ∧ 0 < n ∧ n < c.order ∧ name.all (· == c.name)
      ∧ c.isPublicKey n shown
  then some (publicInfo (curveAlgorithm c) shown)
  else none

/-- The public key of a key that is a seed. The second version of the
form holds it too. -/
def seedPublic? (bs : List UInt8) : Option (List UInt8) := do
  let w ← Wrapped.read? bs
  let seed ← Der.whole? Der.Tag.octetString w.key
  let key := SeedKey.publicKey seed
  let isShown ←
    match w.version with
    | 0 => some w.rest.isEmpty
    | 1 => some (w.rest == Der.write (Der.Tag.marked 1) (Der.writeBits key))
    | _ => none
  if w.algorithm = seedAlgorithm ∧ seed.length = 32 ∧ isShown then
    some (publicInfo seedAlgorithm key)
  else none

/-- The public key for the key in a block of a file. -/
def publicKey? (b : Pem.Block) : Option (List UInt8) :=
  match b.kind with
  | .rsaPrivateKey => rsaPublic? b.content
  | .ecPrivateKey => curvePublic? .p256 b.content <|> curvePublic? .p384 b.content
  | .privateKey =>
    (unwrap? rsaAlgorithm b.content).bind rsaPublic?
      <|> (unwrap? (curveAlgorithm .p256) b.content).bind (curvePublic? .p256)
      <|> (unwrap? (curveAlgorithm .p384) b.content).bind (curvePublic? .p384)
      <|> seedPublic? b.content
  | _ => none

end DistLock.PrivateKey
