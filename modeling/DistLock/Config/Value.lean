import DistLock.Decimal.Numeral
import DistLock.Decimal.Shortest
import DistLock.Text.Quoted

/-!
# Values of settings

A value as it is found in a source, and its conversions to the types of the
settings. Conversions are lenient: every scalar is a text, words such as
`yes` and `off` are truth values, and truth values are numbers. What cannot
be converted is reported with the type that was expected.

No setting looks into a list or a map, so of these only the fact is kept.
-/

namespace DistLock

inductive SettingValue where
  | unit
  | boolean (b : Bool)
  /-- A whole number that fits 64 bits with a sign. -/
  | integer (n : Int)
  /-- A whole number that fits 64 bits only without a sign. -/
  | unsigned (n : Nat)
  | number (x : Binary64)
  | text (s : String)
  | sequence
  | map
  deriving DecidableEq, Repr

/-- A conversion that failed: what was found, and what was expected. -/
structure Mismatch where
  found : SettingValue
  expected : String
  deriving DecidableEq, Repr

/-- The smallest and the largest number of 64 bits with a sign. -/
def minInt64 : Int := -9223372036854775808

def maxInt64 : Int := 9223372036854775807

/-- The number after the largest of 64 bits without a sign. -/
def unsignedLimit : Nat := 18446744073709551616

namespace SettingValue

/-- How a value is shown in errors. -/
def describe : SettingValue → String
  | .boolean b => s!"boolean `{b}`"
  | .integer n => s!"64-bit integer `{n}`"
  | .unsigned n => s!"64-bit unsigned integer `{n}`"
  | .number x => "floating point `" ++ x.text ++ "`"
  | .text s => "string " ++ Text.Quoted.quote s
  | .unit => "unit value"
  | .sequence => "sequence"
  | .map => "map"

/-- Every scalar has a text. -/
def toText : SettingValue → Except Mismatch String
  | .text s => .ok s
  | .boolean b => .ok (toString b)
  | .integer n => .ok (toString n)
  | .unsigned n => .ok (toString n)
  | .number x => .ok x.text
  | v => .error ⟨v, "a string"⟩

/-- The words for true and false. -/
def truthOfWord? (word : String) : Option Bool :=
  if word ∈ ["true", "on", "yes"] then some true
  else if word ∈ ["false", "off", "no"] then some false
  else none

/-- Numbers are true unless they are zero, and texts are read in any case. -/
def toBool : SettingValue → Except Mismatch Bool
  | .boolean b => .ok b
  | .integer n => .ok (n != 0)
  | .unsigned n => .ok (n != 0)
  | .number x => .ok x.isNonzero
  | .text s =>
    let word := Text.lower s
    if word = "1" then .ok true
    else if word = "0" then .ok false
    else
      match truthOfWord? word with
      | some b => .ok b
      | none => .error ⟨.text word, "a boolean"⟩
  | v => .error ⟨v, "a boolean"⟩

/-- A number of 64 bits without a sign: truth values are one and
zero, fractions are rounded, and texts are words for truth values
or whole numbers. -/
def toUnsigned : SettingValue → Except Mismatch UInt64
  | .boolean b => .ok (if b then 1 else 0)
  | .unsigned n => .ok (.ofNat n)
  | .integer n =>
    if n < 0 then .error ⟨.integer n, "an unsigned 64 bit or less integer"⟩
    else .ok (.ofNat n.toNat)
  | .number x => .ok x.toUInt64
  | .text s =>
    match truthOfWord? (Text.lower s) with
    | some b => .ok (if b then 1 else 0)
    | none =>
      match Decimal.readNat? s with
      | some n => if n < unsignedLimit then .ok (.ofNat n) else .error ⟨.text s, "an integer"⟩
      | none => .error ⟨.text s, "an integer"⟩
  | v => .error ⟨v, "an integer"⟩

end SettingValue

end DistLock
