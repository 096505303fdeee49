import DistLock.Config.Value
import DistLock.Config.Json

/-!
# Numbers and truth values in TOML

Values that are a single word: whole numbers to four bases, floating-point
numbers, and truth values. Between two digits there may be an underscore.
-/

namespace DistLock.Toml

/-- Every underscore stands between two digits. -/
def areSeparatorsPlaced : (afterDigit : Bool) → List Char → Bool
  | afterDigit, [] => afterDigit
  | afterDigit, '_' :: cs =>
    afterDigit && (cs.head?.any Char.isAlphanum) && areSeparatorsPlaced false cs
  | _, _ :: cs => areSeparatorsPlaced true cs

/-- The digits without the underscores between them, one or more. -/
def readDigits? (isDigit : Char → Bool) (cs : List Char) : Option (List Char) :=
  let digits := cs.filter (· != '_')
  if digits.all isDigit && areSeparatorsPlaced false cs then some digits else none

/-- A whole number to the base 16, 8 or 2. -/
def readBased? (base : Nat) (cs : List Char) : Option Nat :=
  let isDigit (c : Char) : Bool := (Json.hexDigit? c).any (· < base)
  (readDigits? isDigit cs).map fun ds =>
    ds.foldl (fun n c => base * n + (Json.hexDigit? c).getD 0) 0

/-- No zero stands before other digits. -/
def hasNoLeadingZero (ds : List Char) : Bool := ds.length = 1 || ds.head? != some '0'

/-- A whole number, if it fits 64 bits with a sign. -/
def whole? (n : Int) : Option SettingValue :=
  if minInt64 ≤ n ∧ n ≤ maxInt64 then some (.integer n) else none

/-- A floating-point number, of which the whole digits, the digits behind
the point and the exponent are given; one that is too large is refused. -/
def float? (negative : Bool) (whole fraction : List Char) (exponent : Int) :
    Option SettingValue :=
  let n : Decimal.Numeral :=
    { negative
      digits := Decimal.digitsValue (whole ++ fraction)
      scale := exponent - fraction.length }
  if n.toBinary64.isInfinite then none else some (.number n.toBinary64)

/-- The exponent after `e`. -/
def readExponent? (cs : List Char) : Option Int :=
  let (negative, cs) := Decimal.splitSign cs
  (readDigits? Char.isDigit cs).map fun ds =>
    if negative then -(Decimal.digitsValue ds : Int) else Decimal.digitsValue ds

/-- A decimal number without its sign. -/
def readDecimal? (negative : Bool) (cs : List Char) : Option SettingValue :=
  let isPlain (c : Char) : Bool := c.isDigit || c == '_'
  let after := cs.dropWhile isPlain
  match readDigits? Char.isDigit (cs.takeWhile isPlain) with
  | none => none
  | some whole =>
    if !hasNoLeadingZero whole then none
    else
      match after with
      | [] =>
        whole? (if negative then -(Decimal.digitsValue whole : Int) else Decimal.digitsValue whole)
      | '.' :: rest =>
        match readDigits? Char.isDigit (rest.takeWhile isPlain), rest.dropWhile isPlain with
        | some fraction, [] => float? negative whole fraction 0
        | some fraction, c :: rest =>
          if c = 'e' ∨ c = 'E' then (readExponent? rest).bind (float? negative whole fraction)
          else none
        | none, _ => none
      | c :: rest =>
        if c = 'e' ∨ c = 'E' then (readExponent? rest).bind (float? negative whole []) else none

/-- A number or a truth value. -/
def readWord? (cs : List Char) : Option SettingValue :=
  match cs with
  | ['t', 'r', 'u', 'e'] => some (.boolean true)
  | ['f', 'a', 'l', 's', 'e'] => some (.boolean false)
  | '0' :: 'x' :: cs => (readBased? 16 cs).bind fun n => whole? n
  | '0' :: 'o' :: cs => (readBased? 8 cs).bind fun n => whole? n
  | '0' :: 'b' :: cs => (readBased? 2 cs).bind fun n => whole? n
  | cs =>
    match Decimal.splitSign cs with
    | (negative, ['i', 'n', 'f']) => some (.number (.infinite negative))
    | (_, ['n', 'a', 'n']) => some (.number .nan)
    | (negative, cs) => readDecimal? negative cs

end DistLock.Toml
