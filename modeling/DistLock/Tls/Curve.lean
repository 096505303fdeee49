import DistLock.Tls.Der

/-!
# Elliptic curves

The curves `y² = x³ - 3x + b` on which keys are made. A private key is a
number, and the public key is the generator taken that many times.

Points are kept as `(x : y : z)`, which stands for `(x / z², y / z³)`; with
`z = 0` it is the point at infinity. Sums then need no division, and neither
does the comparison with a point that is given by its coordinates.
-/

namespace DistLock

structure Curve where
  /-- The number of bytes of a coordinate, and of a private key. -/
  size : Nat
  /-- Coordinates are counted modulo this prime. -/
  modulus : Int
  /-- The number of points, after which their multiples repeat. -/
  order : Nat
  /-- The generator. -/
  baseX : Int
  baseY : Int
  /-- How the curve is named in keys and certificates. -/
  name : List UInt8
  deriving DecidableEq, Repr

namespace Curve

/-- The curve of 256 bits. -/
def p256 : Curve where
  size := 32
  modulus := Int.pow 2 256 - Int.pow 2 224 + Int.pow 2 192 + Int.pow 2 96 - 1
  order := 0xFFFFFFFF00000000FFFFFFFFFFFFFFFFBCE6FAADA7179E84F3B9CAC2FC632551
  baseX := 0x6B17D1F2E12C4247F8BCE6E563A440F277037D812DEB33A0F4A13945D898C296
  baseY := 0x4FE342E2FE1A7F9B8EE7EB4A7C0F9E162BCE33576B315ECECBB6406837BF51F5
  name := [0x06, 0x08, 0x2A, 0x86, 0x48, 0xCE, 0x3D, 0x03, 0x01, 0x07]

/-- The curve of 384 bits. -/
def p384 : Curve where
  size := 48
  modulus := Int.pow 2 384 - Int.pow 2 128 - Int.pow 2 96 + Int.pow 2 32 - 1
  order := 0xFFFFFFFFFFFFFFFFFFFFFFFFFFFFFFFFFFFFFFFFFFFFFFFF
    * Nat.pow 2 192 + 0xC7634D81F4372DDF581A0DB248B0A77AECEC196ACCC52973
  baseX := 0xAA87CA22BE8B05378EB1C71EF320AD746E1D3B628BA79B98
    * Int.pow 2 192 + 0x59F741E082542A385502F25DBF55296C3A545E3872760AB7
  baseY := 0x3617DE4A96262C6F5D9E98BF9292DC29F8F41DBD289A147C
    * Int.pow 2 192 + 0xE9DA3113B5F0B8C00A60B1CE1D7E819D7A431D7C90EA0E5F
  name := [0x06, 0x05, 0x2B, 0x81, 0x04, 0x00, 0x22]

/-! ## Points -/

structure Point where
  x : Int
  y : Int
  z : Int
  deriving DecidableEq, Repr

def infinity : Point := ⟨1, 1, 0⟩

/-- Twice a point. -/
def double (c : Curve) (a : Point) : Point :=
  let p := c.modulus
  let s := 4 * a.x * a.y.pow 2 % p
  let m := 3 * (a.x - a.z.pow 2) * (a.x + a.z.pow 2) % p
  let x := (m.pow 2 - 2 * s) % p
  ⟨x, (m * (s - x) - 8 * a.y.pow 4) % p, 2 * a.y * a.z % p⟩

/-- The sum of two points. -/
def add (c : Curve) (a b : Point) : Point :=
  let p := c.modulus
  if a.z = 0 then b
  else if b.z = 0 then a
  else
    let u := a.x * b.z.pow 2 % p
    let s := a.y * b.z.pow 3 % p
    let h := (b.x * a.z.pow 2 - u) % p
    let r := (b.y * a.z.pow 3 - s) % p
    if h = 0 then if r = 0 then c.double a else infinity
    else
      let x := (r.pow 2 - h.pow 3 - 2 * u * h.pow 2) % p
      ⟨x, (r * (u * h.pow 2 - x) - s * h.pow 3) % p, h * a.z * b.z % p⟩

/-- A multiple of a point, by the bits of the factor from the
highest one on. -/
def multiple (c : Curve) (n : Nat) (a : Point) : Point :=
  (Nat.toDigits 2 n).foldl
    (fun sum bit => if bit = '1' then c.add (c.double sum) a else c.double sum) infinity

/-! ## Keys -/

/-- The point is the one with the given coordinates. -/
def Point.isAt (c : Curve) (a : Point) (x y : Nat) : Bool :=
  a.z != 0 && (x : Int) < c.modulus && (y : Int) < c.modulus
    && x * a.z.pow 2 % c.modulus == a.x && y * a.z.pow 3 % c.modulus == a.y

/-- The public key that bytes are belongs to a private key: both coordinates
are there in full. -/
def isPublicKey (c : Curve) (key : Nat) (bytes : List UInt8) : Bool :=
  match bytes with
  | 0x04 :: bs =>
    bs.length == 2 * c.size
      && (c.multiple key ⟨c.baseX, c.baseY, 1⟩).isAt c (Der.number (bs.take c.size))
        (Der.number (bs.drop c.size))
  | _ => false

end Curve

end DistLock
