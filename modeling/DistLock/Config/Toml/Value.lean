import DistLock.Config.Toml.Lexeme
import DistLock.Config.Toml.Moment
import DistLock.Config.Toml.Number

/-!
# Values in TOML

A value is a string, a single word, an array or an inline table. Of arrays
and inline tables only the fact is kept, but they are read to their end, and
what is wrong within them is found.
-/

namespace DistLock.Toml

abbrev ValueReader := List Char → Option (SettingValue × List Char)

/-- Characters that end a word. -/
def endsWord (c : Char) : Bool :=
  isBlank c || c == '\n' || c == '\r' || c == '#' || c == ',' || c == ']' || c == '}'

/-- The word at the front, and the rest. -/
def spanWord (cs : List Char) : List Char × List Char :=
  (cs.takeWhile (!endsWord ·), cs.dropWhile (!endsWord ·))

/-- The word at the front, to which one more belongs if it is a date and a
time follows it. -/
def spanMoment (cs : List Char) : List Char × List Char :=
  let (word, rest) := spanWord cs
  match readDate? word, rest with
  | some (_, []), ' ' :: c :: rest =>
    if c.isDigit then
      let (time, rest) := spanWord (c :: rest)
      (word ++ ' ' :: time, rest)
    else (word, ' ' :: c :: rest)
  | _, _ => (word, rest)

/-- A value that is neither an array nor an inline table. Dates and
times are texts. -/
def readScalar? (cs : List Char) : Option (SettingValue × List Char) :=
  match cs with
  | '"' :: _ | '\'' :: _ => (readText? cs).map fun (s, rest) => (.text s, rest)
  | cs =>
    let (word, rest) := spanMoment cs
    match readWord? word with
    | some v => some (v, rest)
    | none => (Moment.read? word).map fun m => (.text m.text, rest)

/-- The elements of an array up to its closing bracket; a comma may
follow the last one. -/
def skipElements? (value : ValueReader) : (rounds : Nat) → List Char → Option (List Char)
  | 0, _ => none
  | rounds + 1, cs =>
    match skipLines? cs.length cs with
    | none => none
    | some (']' :: rest) => some rest
    | some cs =>
      match value cs with
      | none => none
      | some (_, rest) =>
        match skipLines? rest.length rest with
        | some (',' :: rest) => skipElements? value rounds rest
        | some (']' :: rest) => some rest
        | _ => none

/-- A key with its value, as it stands in an inline table. -/
def readMember? (value : ValueReader) (cs : List Char) : Option (List String × List Char) := do
  let (key, rest) ← readKey? cs
  match ← skipLines? rest.length rest with
  | '=' :: rest =>
    let (_, rest) ← value (← skipLines? rest.length rest)
    some (key, rest)
  | _ => none

/-- The members of an inline table up to its closing brace, with the keys
read so far; a comma may follow the last one. No key may say more about
another one that has a value. -/
def skipMembers? (value : ValueReader) :
    (rounds : Nat) → (keys : List (List String)) → List Char → Option (List Char)
  | 0, _, _ => none
  | rounds + 1, keys, cs =>
    match skipLines? cs.length cs with
    | none => none
    | some ('}' :: rest) => some rest
    | some cs =>
      match readMember? value cs with
      | none => none
      | some (key, rest) =>
        if keys.any fun k => k.isPrefixOf key || key.isPrefixOf k then none
        else
          match skipLines? rest.length rest with
          | some (',' :: rest) => skipMembers? value rounds (key :: keys) rest
          | some ('}' :: rest) => some rest
          | _ => none

/-- A value, with `levels` left for nesting. -/
def readValue? : (levels : Nat) → ValueReader
  | 0, cs => readScalar? cs
  | levels + 1, cs =>
    match cs with
    | '[' :: cs =>
      (skipElements? (readValue? levels) (cs.length + 1) cs).map fun rest => (.sequence, rest)
    | '{' :: cs =>
      (skipMembers? (readValue? levels) (cs.length + 1) [] cs).map fun rest => (.map, rest)
    | cs => readScalar? cs

end DistLock.Toml
