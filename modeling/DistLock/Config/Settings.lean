import DistLock.Config.Value

/-!
# Settings from several sources

Settings are collected from one source after the other, and the last value
of a key counts. A key is a path: `a.b` makes `a` a map and `a[0]` makes it
a list, whatever it was before. A key that is no path stands for itself.

Maps are made anew while they are collected, so they have no origin; a list
keeps the origin of the source that it came from as a whole.
-/

namespace DistLock

/-- A value and where it was found. -/
structure Setting where
  value : SettingValue
  origin : Option String := none
  deriving DecidableEq, Repr

/-- Where in the settings a key points. -/
inductive KeyPath where
  | field (key : String)
  /-- Something within the map of a key. -/
  | member (key : String)
  /-- Something within the list of a key. -/
  | element (key : String)
  deriving DecidableEq, Repr

namespace KeyPath

/-- Characters of a plain name. -/
def isNameChar (c : Char) : Bool := c.isAlphanum || c == '_' || c == '-'

/-- A plain name at the front. -/
def readName? (cs : List Char) : Option (String × List Char) :=
  match cs.takeWhile isNameChar with
  | [] => none
  | name => some (String.ofList name, cs.dropWhile isNameChar)

/-- The rest without the blanks at its front. -/
def skipBlank (cs : List Char) : List Char := cs.dropWhile fun c => c == ' ' || c == '\t'

/-- An index at the front, between brackets of which the first is gone. It
may be negative, must fit 64 bits, and may have blanks around it. -/
def readIndex? (cs : List Char) : Option (List Char) :=
  let (negative, cs) := match skipBlank cs with
    | '-' :: cs => (true, cs)
    | cs => (false, cs)
  let (digits, rest) := Decimal.spanDigits cs
  match Decimal.readDigits? digits, skipBlank rest with
  | some n, ']' :: rest =>
    let index : Int := if negative then -(n : Int) else n
    if minInt64 ≤ index ∧ index ≤ maxInt64 then some rest else none
  | _, _ => none

/-- What follows the first name is well formed: names after dots, and
indices in brackets. Every part takes two characters or more, so there are
fewer parts than characters. -/
def isTail : (rounds : Nat) → List Char → Bool
  | _, [] => true
  | 0, _ => false
  | rounds + 1, '.' :: cs => (readName? cs).any fun (_, rest) => isTail rounds rest
  | rounds + 1, '[' :: cs => (readIndex? cs).any fun rest => isTail rounds rest
  | _ + 1, _ => false

/-- The path that a key is. -/
def ofKey (key : String) : KeyPath :=
  match readName? key.toList with
  | some (name, rest) =>
    if isTail rest.length rest then
      match rest with
      | '.' :: _ => .member name
      | '[' :: _ => .element name
      | _ => .field name
    else .field key
  | none => .field key

end KeyPath

/-- Settings by their keys. -/
abbrev Settings := List (String × Setting)

namespace Settings

def get? (s : Settings) (key : String) : Option Setting := s.lookup key

/-- The settings with another value for a key. -/
def insert (s : Settings) (key : String) (x : Setting) : Settings :=
  (key, x) :: s.filter (·.1 != key)

/-- Puts a value where a path points. -/
def put (s : Settings) (path : KeyPath) (x : Setting) : Settings :=
  match path with
  | .field key => s.insert key (if x.value = .map then { value := .map } else x)
  | .member key => s.insert key { value := .map }
  | .element key =>
    let origin := match s.get? key with
      | some ⟨.sequence, origin⟩ => origin
      | _ => none
    s.insert key { value := .sequence, origin }

/-- Puts all values of a source. -/
def putAll (s : Settings) (origin : String) (entries : List (String × SettingValue)) : Settings :=
  entries.foldl (fun s (key, value) => s.put (.ofKey key) { value, origin := some origin }) s

end Settings

end DistLock
