/-!
# Floating-point numbers

The numbers of the 64-bit binary format as exact data: a finite one is its
sign, a whole mantissa and an exponent of two. A quotient of natural numbers
becomes the nearest of them, and of two equally near ones that with the even
mantissa (`ofRatio`). Products and quotients of two numbers are rounded
once, from their exact value.
-/

namespace DistLock

/-- A number of the 64-bit binary format. -/
inductive Binary64 where
  | nan
  | infinite (negative : Bool)
  /-- The mantissa times two to the exponent. A nonzero one has a mantissa
  of 53 bits, or the exponent -1074. -/
  | finite (negative : Bool) (mantissa : Nat) (exponent : Int)
  deriving DecidableEq, Repr

namespace Binary64

/-- The smallest exponent. -/
def minExponent : Int := -1074

/-- The largest exponent. -/
def maxExponent : Int := 971

def zero (negative : Bool) : Binary64 := .finite negative 0 minExponent

/-- `num / den` as a whole number, the nearest one; of two, the even one. -/
def roundHalfEven (num den : Nat) : Nat :=
  let q := num / den
  let r := num % den
  if den < 2 * r ∨ (2 * r = den ∧ q % 2 = 1) then q + 1 else q

/-- `num / den` as a whole number, the nearest one; of two, the larger one. -/
def roundHalfUp (num den : Nat) : Nat := (2 * num + den) / (2 * den)

/-- The quotient `num / den` divided by two to the `e`, as a quotient again. -/
def scaleDown (num den : Nat) (e : Int) : Nat × Nat :=
  (num * Nat.pow 2 (-e).toNat, den * Nat.pow 2 e.toNat)

/-- The exponent for which `num / den` has a mantissa of 53 bits,
if there is one. -/
def exponentOf (num den : Nat) : Int :=
  let e := max ((num.log2 : Int) - (den.log2 : Int) - 53) minExponent
  let (n, d) := scaleDown num den e
  if Nat.pow 2 53 ≤ n / d then e + 1 else e

/-- The number nearest to `num / den` with the given sign. -/
def ofRatio (negative : Bool) (num den : Nat) : Binary64 :=
  if num = 0 then zero negative
  else
    let e := exponentOf num den
    let (n, d) := scaleDown num den e
    let m := roundHalfEven n d
    let (m, e) := if m = Nat.pow 2 53 then (Nat.pow 2 52, e + 1) else (m, e)
    if maxExponent < e then .infinite negative
    else if m = 0 then zero negative
    else .finite negative m e

def ofNat (n : Nat) : Binary64 := ofRatio false n 1

/-- A mantissa and an exponent as a quotient. -/
def ratio (mantissa : Nat) (exponent : Int) : Nat × Nat :=
  (mantissa * Nat.pow 2 exponent.toNat, Nat.pow 2 (-exponent).toNat)

def neg : Binary64 → Binary64
  | .nan => .nan
  | .infinite negative => .infinite !negative
  | .finite negative m e => .finite (!negative) m e

/-- The product of two finite numbers, rounded; anything else is
of no use here. -/
def mul : Binary64 → Binary64 → Binary64
  | .finite s m e, .finite t n f =>
    let (num, den) := ratio (m * n) (e + f)
    ofRatio (s != t) num den
  | _, _ => .nan

/-- The quotient of two finite numbers, rounded; anything else is
of no use here. -/
def div : Binary64 → Binary64 → Binary64
  | .finite s m e, .finite t n f =>
    if n = 0 then .nan
    else
      let (num, den) := ratio m (e - f)
      ofRatio (s != t) num (den * n)
  | _, _ => .nan

def isInfinite : Binary64 → Bool
  | .infinite _ => true
  | _ => false

/-- Neither zero of the two. -/
def isNonzero : Binary64 → Bool
  | .finite _ m _ => m != 0
  | _ => true

/-- The nearest natural number below `2 ^ 64`: halves go up, what is too
large becomes the largest and negative numbers and `nan` become zero. -/
def toUInt64 : Binary64 → UInt64
  | .nan => 0
  | .infinite negative => if negative then 0 else .ofNat (Nat.pow 2 64 - 1)
  | .finite negative m e =>
    let (num, den) := ratio m e
    if negative then 0 else .ofNat (min (roundHalfUp num den) (Nat.pow 2 64 - 1))

end Binary64

end DistLock
