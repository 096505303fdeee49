import DistLock.Decimal.Binary64
import DistLock.Text.Lowercase

/-!
# Decimal numerals

Reading numbers that are written in decimal: whole numbers with a sign
(`readInt?`), without one (`readNat?`), and floating-point numbers
(`readBinary64?`), which are rounded once from their exact value. All three
refuse blanks and digit separators.
-/

namespace DistLock.Decimal

/-- The value of a row of digits. -/
def digitsValue (cs : List Char) : Nat :=
  cs.foldl (fun n c => 10 * n + (c.toNat - 48)) 0

/-- Splits the digits off the front. -/
def spanDigits (cs : List Char) : List Char × List Char :=
  (cs.takeWhile Char.isDigit, cs.dropWhile Char.isDigit)

/-- A leading sign, with `true` for minus, and the rest. -/
def splitSign : List Char → Bool × List Char
  | '-' :: cs => (true, cs)
  | '+' :: cs => (false, cs)
  | cs => (false, cs)

/-- One digit or more, all of them digits. -/
def readDigits? (cs : List Char) : Option Nat :=
  if cs.isEmpty || !cs.all Char.isDigit then none else some (digitsValue cs)

/-- A whole number: an optional sign and digits. -/
def readInt? (s : String) : Option Int :=
  let (negative, cs) := splitSign s.toList
  (readDigits? cs).map fun n => if negative then -(n : Int) else n

/-- A natural number: an optional plus and digits. -/
def readNat? (s : String) : Option Nat :=
  match s.toList with
  | '+' :: cs => readDigits? cs
  | cs => readDigits? cs

/-- Digits and the power of ten by which they are multiplied. -/
structure Numeral where
  negative : Bool
  digits : Nat
  scale : Int
  deriving DecidableEq, Repr

/-- Numbers from ten to this power on are infinite, and numbers below ten to
minus this power are zero. -/
def reach : Int := 400

/-- The number nearest to a numeral. -/
def Numeral.toBinary64 (n : Numeral) : Binary64 :=
  if n.digits = 0 then .zero n.negative
  else
    let size := (Nat.toDigits 10 n.digits).length + n.scale
    if reach < size then .infinite n.negative
    else if size < -reach then .zero n.negative
    else .ofRatio n.negative (n.digits * Nat.pow 10 n.scale.toNat) (Nat.pow 10 (-n.scale).toNat)

/-- The exponent at the end of a numeral: nothing, or `e`, an optional
sign and digits. -/
def readExponent? : List Char → Option Int
  | [] => some 0
  | c :: cs =>
    if c = 'e' ∨ c = 'E' then
      let (negative, cs) := splitSign cs
      (readDigits? cs).map fun n => if negative then -(n : Int) else n
    else none

/-- An unsigned numeral: digits with an optional point, at least one of
them, and an optional exponent. -/
def readUnsigned? (negative : Bool) (cs : List Char) : Option Numeral :=
  let (whole, rest) := spanDigits cs
  let (fraction, rest) :=
    match rest with
    | '.' :: rest => spanDigits rest
    | rest => ([], rest)
  if whole.isEmpty && fraction.isEmpty then none
  else
    (readExponent? rest).map fun exponent =>
      { negative
        digits := digitsValue (whole ++ fraction)
        scale := exponent - fraction.length }

/-- A floating-point number: a numeral, or one of the words `inf`,
`infinity` and `nan` in any case, after an optional sign. -/
def readBinary64? (s : String) : Option Binary64 :=
  let (negative, cs) := splitSign s.toList
  let word := String.ofList cs
  if Text.eqIgnoringAsciiCase word "nan" then some .nan
  else if Text.eqIgnoringAsciiCase word "inf" || Text.eqIgnoringAsciiCase word "infinity" then
    some (.infinite negative)
  else (readUnsigned? negative cs).map Numeral.toBinary64

end DistLock.Decimal
