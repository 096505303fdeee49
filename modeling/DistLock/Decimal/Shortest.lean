import DistLock.Decimal.Binary64

/-!
# Shortest decimals

The text of a floating-point number: the fewest digits that still read
back as the same number, and of the decimals with that many digits the
nearest one. It is written without an exponent, and whole numbers are
written without a point.

`shortest` looks at one decimal grid after the other, coarse to fine. On
each it tests the two neighbours of the number, so the first grid with a hit
has the fewest digits.
-/

namespace DistLock

namespace Decimal

/-- The number of decimal digits of `n`. -/
def digitCount (n : Nat) : Nat := (Nat.toDigits 10 n).length

/-- Every number of the format is at least ten to the minus `shift`. -/
def shift : Nat := 350

/-- The whole numbers `low`, `value` and `high` bound, over the common
denominator `den`, the decimals that read back as `value`; the bounds
themselves do if `closed`. -/
structure Interval where
  low : Nat
  value : Nat
  high : Nat
  den : Nat
  closed : Bool
  deriving Repr

/-- The interval of the finite number `m` times two to the `e`: it
reaches half way to the neighbours, and the neighbour below a power of
two is half as far. -/
def Interval.ofFinite (m : Nat) (e : Int) : Interval :=
  let below := if m = Nat.pow 2 52 ∧ Binary64.minExponent < e then 1 else 2
  let scale := Nat.pow 2 (e - 2).toNat * Nat.pow 10 shift
  { low := (4 * m - below) * scale
    value := 4 * m * scale
    high := (4 * m + 2) * scale
    den := Nat.pow 2 (2 - e).toNat
    closed := m % 2 == 0 }

/-- The numerator `x` lies in the interval. -/
def Interval.contains (i : Interval) (x : Nat) : Bool :=
  if i.closed then i.low ≤ x && x ≤ i.high else i.low < x && x < i.high

/-- The power of ten of the first digit, counted from `shift` places
behind the point. -/
def Interval.magnitude (i : Interval) : Nat := digitCount (i.value / i.den) - 1

/-- The neighbours of the value on the grid of step ten to the `place`,
that read back. -/
def Interval.onGrid (i : Interval) (place : Nat) : Option Nat :=
  let step := Nat.pow 10 place * i.den
  let down := i.value / step
  let up := down + 1
  match i.contains (down * step), i.contains (up * step) with
  | true, true => some (if 2 * i.value < (down + up) * step then down else up)
  | true, false => some down
  | false, true => some up
  | false, false => none

/-- Looks at `grids` grids from the given place downward. -/
def Interval.search (i : Interval) : (grids place : Nat) → Nat × Nat
  | 0, place => (i.value / (Nat.pow 10 place * i.den), place)
  | grids + 1, place =>
    match i.onGrid place with
    | some digits => (digits, place)
    | none => search i grids (place - 1)

/-- The digits of the shortest decimal as a number, and the power of ten of
the last of them. -/
def shortest (m : Nat) (e : Int) : Nat × Int :=
  let i := Interval.ofFinite m e
  let (digits, place) := i.search 17 i.magnitude
  (digits, (place : Int) - shift)

/-- The digits behind the point, without the zeros at the end. -/
def fractionDigits (digits : List Char) : List Char :=
  (digits.reverse.dropWhile (· == '0')).reverse

/-- `n` times ten to the `place`, without an exponent. -/
def positional (n : Nat) (place : Int) : String :=
  match place with
  | .ofNat k => toString n ++ String.ofList (List.replicate k '0')
  | .negSucc k =>
    let digits := Nat.toDigits 10 n
    let padded := List.replicate (k + 2 - digits.length) '0' ++ digits
    let whole := padded.take (padded.length - (k + 1))
    let fraction := fractionDigits (padded.drop (padded.length - (k + 1)))
    String.ofList (if fraction.isEmpty then whole else whole ++ '.' :: fraction)

end Decimal

namespace Binary64

def sign (negative : Bool) : String := if negative then "-" else ""

/-- The text of a number. -/
def text : Binary64 → String
  | .nan => "NaN"
  | .infinite negative => sign negative ++ "inf"
  | .finite negative m e =>
    if m = 0 then sign negative ++ "0"
    else
      let (digits, place) := Decimal.shortest m e
      sign negative ++ Decimal.positional digits place

end Binary64

end DistLock
