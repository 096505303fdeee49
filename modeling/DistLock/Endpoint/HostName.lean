import DistLock.Decimal.Numeral

/-!
# Names of hosts

A server is known by a DNS name or by an IP address, and its
certificate is checked against that name. `isServerName` says which
texts are names of either kind.
-/

namespace DistLock.HostName

/-! ## DNS names -/

/-- The most characters of a label and of a name. -/
def maxLabel : Nat := 63

def maxName : Nat := 253

/-- Letters, digits, hyphens and underscores; a hyphen neither
first nor last. -/
def isLabel (label : List Char) : Bool :=
  !label.isEmpty && label.length ≤ maxLabel
    && label.all (fun c => c.isAlphanum || c == '-' || c == '_')
    && label.head? != some '-' && label.getLast? != some '-'

/-- Splits at a character. -/
def splitAt (sep : Char) : List Char → List (List Char)
  | [] => [[]]
  | c :: cs =>
    match splitAt sep cs with
    | [] => [[c]]
    | part :: parts => if c = sep then [] :: part :: parts else (c :: part) :: parts

/-- The labels of a name; a dot at the end makes none. -/
def labels (cs : List Char) : List (List Char) :=
  let parts := splitAt '.' cs
  if 1 < parts.length && parts.getLast? == some [] then parts.dropLast else parts

/-- Labels with dots between them, of which the last is not a number. -/
def isDnsName (cs : List Char) : Bool :=
  cs.length ≤ maxName && (labels cs).all isLabel
    && !((labels cs).getLast?.any fun label => label.all Char.isDigit)

/-! ## IP addresses -/

/-- A number from 0 to 255, without zeros in front. -/
def isOctet (cs : List Char) : Bool :=
  !cs.isEmpty && cs.length ≤ 3 && cs.all Char.isDigit && (cs.length = 1 || cs.head? != some '0')
    && Decimal.digitsValue cs ≤ 255

def isIPv4 (cs : List Char) : Bool :=
  let parts := splitAt '.' cs
  parts.length == 4 && parts.all isOctet

/-- Up to four hexadecimal digits. -/
def isGroup (cs : List Char) : Bool :=
  !cs.isEmpty && cs.length ≤ 4
    && cs.all fun c => c.isDigit || ('a' ≤ c && c ≤ 'f') || ('A' ≤ c && c ≤ 'F')

/-- The number of groups that a row of them stands for, where the last may
be an address of the shorter kind in place of two. -/
def groupCount? (cs : List Char) : Option Nat :=
  if cs.isEmpty then some 0
  else
    let parts := splitAt ':' cs
    if parts.all isGroup then some parts.length
    else if parts.dropLast.all isGroup && parts.getLast?.any isIPv4 then some (parts.length + 1)
    else none

/-- Splits before and behind the first double colon. -/
def splitAtGap? : List Char → Option (List Char × List Char)
  | ':' :: ':' :: cs => some ([], cs)
  | c :: cs => (splitAtGap? cs).map fun (before, behind) => (c :: before, behind)
  | [] => none

/-- Eight groups, of which a double colon may stand for one or more. -/
def isIPv6 (cs : List Char) : Bool :=
  match splitAtGap? cs with
  | none => groupCount? cs == some 8
  | some (before, behind) =>
    !before.contains '.' &&
      match groupCount? before, groupCount? behind with
      | some m, some n => m + n ≤ 7
      | _, _ => false

/-- The text is a DNS name or an IP address. -/
def isServerName (s : String) : Bool :=
  isDnsName s.toList || isIPv4 s.toList || isIPv6 s.toList

end DistLock.HostName
