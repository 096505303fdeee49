import DistLock.Config.Value

/-!
# Settings in JSON

Reads an object: its members are the settings. The reader is strict; it
refuses comments, leading zeros, commas at the end, raw control characters,
halves of surrogate pairs, and more than `maxLevels` levels of nesting.

Whole numbers are kept as long as they fit 64 bits. For other numbers the
digits that fit 64 bits are taken and then scaled by a power of ten in
floating-point arithmetic, which does not always give the nearest number;
one that is too large is refused.

All readers take text from the front and return the rest.
-/

namespace DistLock.Json

/-- The levels of nesting that a reader follows. -/
def maxLevels : Nat := 127

def isBlank (c : Char) : Bool := c == ' ' || c == '\n' || c == '\t' || c == '\r'

def skipBlank (cs : List Char) : List Char := cs.dropWhile isBlank

/-! ## Strings -/

/-- The value of a hexadecimal digit. -/
def hexDigit? (c : Char) : Option Nat :=
  if '0' ≤ c ∧ c ≤ '9' then some (c.toNat - 48)
  else if 'a' ≤ c ∧ c ≤ 'f' then some (c.toNat - 87)
  else if 'A' ≤ c ∧ c ≤ 'F' then some (c.toNat - 55)
  else none

/-- The number that `n` hexadecimal digits form. -/
def readHex? : (n : Nat) → (value : Nat) → List Char → Option (Nat × List Char)
  | 0, value, cs => some (value, cs)
  | _ + 1, _, [] => none
  | n + 1, value, c :: cs => (hexDigit? c).bind fun d => readHex? n (16 * value + d) cs

def isLeadSurrogate (n : Nat) : Bool := 0xD800 ≤ n && n < 0xDC00

def isTrailSurrogate (n : Nat) : Bool := 0xDC00 ≤ n && n < 0xE000

/-- The character after `\u`; one outside the first plane is
written as two halves. -/
def readUnicode? (cs : List Char) : Option (Char × List Char) :=
  match readHex? 4 0 cs with
  | none => none
  | some (n, rest) =>
    if isLeadSurrogate n then
      match rest with
      | '\\' :: 'u' :: rest =>
        match readHex? 4 0 rest with
        | none => none
        | some (t, rest) =>
          if isTrailSurrogate t then
            some (Char.ofNat (0x10000 + (n - 0xD800) * 0x400 + (t - 0xDC00)), rest)
          else none
      | _ => none
    else if isTrailSurrogate n then none
    else some (Char.ofNat n, rest)

/-- The character after a backslash. -/
def readEscape? : List Char → Option (Char × List Char)
  | '"' :: cs => some ('"', cs)
  | '\\' :: cs => some ('\\', cs)
  | '/' :: cs => some ('/', cs)
  | 'b' :: cs => some ('\x08', cs)
  | 'f' :: cs => some ('\x0C', cs)
  | 'n' :: cs => some ('\n', cs)
  | 'r' :: cs => some ('\r', cs)
  | 't' :: cs => some ('\t', cs)
  | 'u' :: cs => readUnicode? cs
  | _ => none

/-- The rest of a string, of which the characters in `done`, last
first, were read. -/
def readStringTail? : (rounds : Nat) → (done : List Char) → List Char → Option (String × List Char)
  | 0, _, _ => none
  | _ + 1, _, [] => none
  | rounds + 1, done, c :: cs =>
    if c = '"' then some (String.ofList done.reverse, cs)
    else if c = '\\' then
      match readEscape? cs with
      | some (c, cs) => readStringTail? rounds (c :: done) cs
      | none => none
    else if c.toNat < 0x20 then none
    else readStringTail? rounds (c :: done) cs

/-- A string, of which the first quote is gone. -/
def readString? (cs : List Char) : Option (String × List Char) :=
  readStringTail? (cs.length + 1) [] cs

/-! ## Numbers -/

/-- Appends digits to a number as long as it fits 64 bits; returns also how
many were left out. -/
def appendDigits : (value : Nat) → List Char → Nat × Nat
  | value, [] => (value, 0)
  | value, c :: cs =>
    let next := 10 * value + (c.toNat - 48)
    if unsignedLimit ≤ next then (value, cs.length + 1) else appendDigits next cs

/-- The largest power of ten that is a finite number. -/
def maxPower : Nat := 308

/-- Multiplies by a power of ten, or divides, once or more often. After a
few rounds nothing but zero is left to be divided. -/
def scale? : (rounds : Nat) → Binary64 → (exponent : Int) → Option Binary64
  | 0, x, _ => some x
  | rounds + 1, x, exponent =>
    if exponent.natAbs ≤ maxPower then
      let power := Binary64.ofNat (Nat.pow 10 exponent.natAbs)
      if exponent < 0 then some (x.div power)
      else
        let y := x.mul power
        if y.isInfinite then none else some y
    else if !x.isNonzero then some x
    else if 0 ≤ exponent then none
    else scale? rounds (x.div (.ofNat (Nat.pow 10 maxPower))) (exponent + maxPower)

/-- The number with the given sign, digits and power of ten. -/
def fromParts? (negative : Bool) (significand : Nat) (exponent : Int) : Option SettingValue :=
  (scale? 8 (.ofNat significand) exponent).map fun x => .number (if negative then x.neg else x)

/-- The largest exponent that is taken at its value. -/
def maxExponent : Nat := 2147483647

/-- What follows `e`: an optional sign and digits; and the number they make. -/
def readExponent? (negative : Bool) (significand : Nat) (exponent : Int) (cs : List Char) :
    Option (SettingValue × List Char) :=
  let (down, cs) := Decimal.splitSign cs
  let (digits, rest) := Decimal.spanDigits cs
  match Decimal.readDigits? digits with
  | none => none
  | some n =>
    if maxExponent < n then
      if significand ≠ 0 ∧ !down then none else some (.number (.zero negative), rest)
    else
      (fromParts? negative significand (if down then exponent - n else exponent + n)).map (·, rest)

/-- What follows the digits of a number that is not whole. -/
def readScaled? (negative : Bool) (significand : Nat) (exponent : Int) (cs : List Char) :
    Option (SettingValue × List Char) :=
  match cs with
  | 'e' :: cs | 'E' :: cs => readExponent? negative significand exponent cs
  | cs => (fromParts? negative significand exponent).map (·, cs)

/-- A whole number that fits 64 bits. There is no whole number
for minus zero. -/
def wholeNumber (negative : Bool) (n : Nat) : SettingValue :=
  if negative then
    if n = 0 ∨ -(n : Int) < minInt64 then .number (Binary64.ofNat n).neg
    else .integer (-(n : Int))
  else if (n : Int) ≤ maxInt64 then .integer n
  else .unsigned n

/-- A number without its sign. -/
def readUnsigned? (negative : Bool) (cs : List Char) : Option (SettingValue × List Char) :=
  let (whole, rest) := Decimal.spanDigits cs
  if whole.isEmpty || (whole.head? == some '0' && 1 < whole.length) then none
  else
    let (significand, leftOut) := appendDigits 0 whole
    match rest with
    | '.' :: rest =>
      let (fraction, rest) := Decimal.spanDigits rest
      if fraction.isEmpty then none
      else
        let (significand, fractionLeftOut) := appendDigits significand fraction
        readScaled? negative significand
          ((leftOut : Int) - (fraction.length - fractionLeftOut : Nat)) rest
    | 'e' :: rest | 'E' :: rest => readExponent? negative significand leftOut rest
    | rest =>
      if leftOut = 0 then some (wholeNumber negative significand, rest)
      else (fromParts? negative significand leftOut).map (·, rest)

def readNumber? : List Char → Option (SettingValue × List Char)
  | '-' :: cs => readUnsigned? true cs
  | cs => readUnsigned? false cs

/-! ## Values -/

/-- A value that is neither a list nor an object. -/
def readScalar? (cs : List Char) : Option (SettingValue × List Char) :=
  match cs with
  | '"' :: cs => (readString? cs).map fun (s, rest) => (.text s, rest)
  | 'n' :: 'u' :: 'l' :: 'l' :: rest => some (.unit, rest)
  | 't' :: 'r' :: 'u' :: 'e' :: rest => some (.boolean true, rest)
  | 'f' :: 'a' :: 'l' :: 's' :: 'e' :: rest => some (.boolean false, rest)
  | cs => readNumber? cs

/-- A reader of values of which the blanks in front are gone. -/
abbrev ValueReader := List Char → Option (SettingValue × List Char)

/-- The elements of a list that is not empty, up to its closing bracket.
Each takes two characters or more. -/
def skipElements? (value : ValueReader) : (rounds : Nat) → List Char → Option (List Char)
  | 0, _ => none
  | rounds + 1, cs =>
    match value (skipBlank cs) with
    | none => none
    | some (_, rest) =>
      match skipBlank rest with
      | ',' :: rest => skipElements? value rounds rest
      | ']' :: rest => some rest
      | _ => none

/-- One member of an object. -/
def readMember? (value : ValueReader) (cs : List Char) :
    Option ((String × SettingValue) × List Char) :=
  match skipBlank cs with
  | '"' :: cs =>
    match readString? cs with
    | none => none
    | some (key, rest) =>
      match skipBlank rest with
      | ':' :: rest => (value (skipBlank rest)).map fun (v, rest) => ((key, v), rest)
      | _ => none
  | _ => none

/-- The members of an object that is not empty, up to its closing brace. -/
def readMembers? (value : ValueReader) :
    (rounds : Nat) → List Char → Option (List (String × SettingValue) × List Char)
  | 0, _ => none
  | rounds + 1, cs =>
    match readMember? value cs with
    | none => none
    | some (m, rest) =>
      match skipBlank rest with
      | ',' :: rest =>
        (readMembers? value rounds rest).map fun (ms, rest) => (m :: ms, rest)
      | '}' :: rest => some ([m], rest)
      | _ => none

/-- An object, of which the opening brace is gone. -/
def readObject? (value : ValueReader) (cs : List Char) :
    Option (List (String × SettingValue) × List Char) :=
  match skipBlank cs with
  | '}' :: rest => some ([], rest)
  | cs => readMembers? value (cs.length + 1) cs

/-- A list, of which the opening bracket is gone. -/
def skipList? (value : ValueReader) (cs : List Char) : Option (List Char) :=
  match skipBlank cs with
  | ']' :: rest => some rest
  | cs => skipElements? value (cs.length + 1) cs

/-- A value, with `levels` left for nesting. -/
def readValue? : (levels : Nat) → ValueReader
  | 0, cs => readScalar? cs
  | levels + 1, cs =>
    match cs with
    | '{' :: cs => (readObject? (readValue? levels) cs).map fun (_, rest) => (.map, rest)
    | '[' :: cs => (skipList? (readValue? levels) cs).map fun rest => (.sequence, rest)
    | cs => readScalar? cs

/-- The members of the object that a text is. -/
def read? (s : String) : Option (List (String × SettingValue)) :=
  match skipBlank s.toList with
  | '{' :: cs =>
    match readObject? (readValue? (maxLevels - 1)) cs with
    | some (members, rest) => if (skipBlank rest).isEmpty then some members else none
    | none => none
  | _ => none

end DistLock.Json
