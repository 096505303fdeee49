import DistLock.Text.Property

/-!
# Quoted text

Text between double quotes with everything that cannot be shown, or that
would change how its neighbours are shown, replaced by an escape. The quote,
the backslash and the usual four control characters have short escapes; all
other escapes give the code point in hexadecimal between braces.

`isHidden` says which characters have a numeric escape. The single
quote stays as it is.
-/

namespace DistLock.Text.Quoted

open Property

/-- Characters without a visible form of their own: control, format, private
use and unassigned ones, separators other than the space, letters that only
fill a place, and marks that join the character before them. -/
def isHidden (c : Char) : Bool :=
  let n := c.toNat
  if 0x20 ≤ n && n < 0x7F then false
  else inRanges combining n || inRanges control n || inRanges filler n || inRanges format n
    || inRanges privateUse n || inRanges separator n || inRanges unassigned n

/-- The digits of `n` in lower-case hexadecimal, without leading zeros. -/
def hexDigits (n : Nat) : List Char := Nat.toDigits 16 n

/-- The escape that names the code point of `c`. -/
def numericEscape (c : Char) : List Char :=
  ['\\', 'u', '{'] ++ hexDigits c.toNat ++ ['}']

/-- How one character is written inside the quotes. -/
def escape (c : Char) : List Char :=
  if c = '\x00' then ['\\', '0']
  else if c = '\t' then ['\\', 't']
  else if c = '\r' then ['\\', 'r']
  else if c = '\n' then ['\\', 'n']
  else if c = '\\' then ['\\', '\\']
  else if c = '"' then ['\\', '"']
  else if isHidden c then numericEscape c
  else [c]

/-- The text in quotes. -/
def quote (s : String) : String :=
  String.ofList ('"' :: s.toList.flatMap escape ++ ['"'])

end DistLock.Text.Quoted
