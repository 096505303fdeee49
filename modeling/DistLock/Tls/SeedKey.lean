import DistLock.Tls.Sha512

/-!
# Keys from a seed

Keys on the curve `y² - x² = 1 + d x² y²` of 255 bits. A private key is a
seed of 32 bytes. The seed is hashed, the first half of the hash is made a
number, and the public key is the generator taken that many times.

Points are kept as `(x : y : z : t)`, which stands for `(x / z, y / z)` with
`t = x y / z`. One formula adds any two of them.
-/

namespace DistLock.SeedKey

/-- Coordinates are counted modulo this prime. -/
def modulus : Int := Int.pow 2 255 - 19

/-- The constant `d` of the curve. -/
def constant : Int := 0x52036CEE2B6FFE738CC740797779E89800700A4D4141D8AB75EB4DCA135978A3

structure Point where
  x : Int
  y : Int
  z : Int
  t : Int
  deriving DecidableEq, Repr

/-- The point that adds nothing. -/
def zero : Point := ⟨0, 1, 1, 0⟩

/-- The generator. -/
def base : Point :=
  let x := 0x216936D3CD6E53FEC0A4E231FDD6DC5C692CC7609525A7B2C9562D608F25D51A
  let y := 0x6666666666666666666666666666666666666666666666666666666666666658
  ⟨x, y, 1, x * y % modulus⟩

/-- The sum of two points. -/
def add (a b : Point) : Point :=
  let p := modulus
  let u := (a.y - a.x) * (b.y - b.x) % p
  let v := (a.y + a.x) * (b.y + b.x) % p
  let s := 2 * constant * a.t * b.t % p
  let z := 2 * a.z * b.z % p
  let e := v - u
  let h := v + u
  ⟨e * (z - s) % p, (z + s) * h % p, (z - s) * (z + s) % p, e * h % p⟩

/-- A multiple of the generator, by the bits of the factor from the
highest one on. -/
def multiple (n : Nat) : Point :=
  (Nat.toDigits 2 n).foldl
    (fun sum bit => if bit = '1' then add (add sum sum) base else add sum sum) zero

/-- A power modulo the prime, by the bits of the exponent from the
highest one on. -/
def power (x : Int) (n : Nat) : Int :=
  (Nat.toDigits 2 n).foldl
    (fun y bit => if bit = '1' then y * y % modulus * x % modulus else y * y % modulus) 1

/-! ## Keys -/

/-- The number that bytes are, the lowest first. -/
def number (bs : List UInt8) : Nat := bs.foldr (fun b n => 256 * n + b.toNat) 0

/-- The lowest `count` bytes of a number, the lowest first. -/
def bytes : (count : Nat) → Nat → List UInt8
  | 0, _ => []
  | count + 1, n => .ofNat n :: bytes count (n / 256)

/-- The factor for a seed: its lowest three bits are zero and its highest
bit is the 255th. -/
def factor (seed : List UInt8) : Nat :=
  number ((Sha512.hash seed).take 32) % Nat.pow 2 254 / 8 * 8 + Nat.pow 2 254

/-- A point as bytes: its second coordinate, with the lowest bit of
the first on top. -/
def Point.bytes (a : Point) : List UInt8 :=
  let inverse := power a.z (modulus.toNat - 2)
  let x := (a.x * inverse % modulus).toNat
  let y := (a.y * inverse % modulus).toNat
  SeedKey.bytes 32 (y + x % 2 * Nat.pow 2 255)

/-- The public key for a seed. -/
def publicKey (seed : List UInt8) : List UInt8 := (multiple (factor seed)).bytes

end DistLock.SeedKey
