import DistLock.Config.Json

/-!
# The words of TOML

Blanks, line ends, comments, strings and keys. A string stands on one line
or, between three quotes, on several; with double quotes it may hold
escapes, with single quotes it is taken as it is.

All readers take text from the front and return the rest.
-/

namespace DistLock.Toml

/-- The levels of nested values that a reader follows, and the most
parts of a key. -/
def maxLevels : Nat := 80

def isBlank (c : Char) : Bool := c == ' ' || c == '\t'

def skipBlank (cs : List Char) : List Char := cs.dropWhile isBlank

/-- Control characters, of which only the tab may stand in
strings and comments. -/
def isForbidden (c : Char) : Bool := (c.toNat < 0x20 && c != '\t') || c.toNat == 0x7F

/-! ## Line ends -/

/-- A line end at the front: a line feed, or a carriage return
and a line feed. -/
def readLineEnd? : List Char → Option (List Char × List Char)
  | '\n' :: rest => some (['\n'], rest)
  | '\r' :: '\n' :: rest => some (['\r', '\n'], rest)
  | _ => none

/-- The rest after a comment, if there is one. -/
def skipComment? : List Char → Option (List Char)
  | '#' :: cs =>
    let comment := cs.takeWhile (· != '\n')
    let rest := cs.dropWhile (· != '\n')
    let body := if rest.isEmpty || comment.getLast? != some '\r' then comment else comment.dropLast
    if body.any isForbidden then none else some rest
  | cs => some cs

/-- The end of a line or of the text, after blanks and a comment. -/
def skipLineEnd? (cs : List Char) : Option (List Char) :=
  match skipComment? (skipBlank cs) with
  | some [] => some []
  | some cs => (readLineEnd? cs).map (·.2)
  | none => none

/-- Blanks and line ends. -/
def skipSpace : (rounds : Nat) → List Char → List Char
  | 0, cs => cs
  | rounds + 1, cs =>
    match readLineEnd? (skipBlank cs) with
    | some (_, rest) => skipSpace rounds rest
    | none => skipBlank cs

/-- Blanks, line ends and comments, as they may stand within arrays
and inline tables. -/
def skipLines? : (rounds : Nat) → List Char → Option (List Char)
  | 0, cs => some cs
  | rounds + 1, cs =>
    match readLineEnd? (skipBlank cs) with
    | some (_, rest) => skipLines? rounds rest
    | none =>
      match skipBlank cs with
      | '#' :: rest => (skipComment? ('#' :: rest)).bind (skipLines? rounds)
      | rest => some rest

/-! ## Strings -/

/-- The character with a code point, if it is one. -/
def charOf? (n : Nat) : Option Char := if n.isValidChar then some (Char.ofNat n) else none

/-- The character that the next `n` hexadecimal digits name. -/
def readCodePoint? (n : Nat) (cs : List Char) : Option (Char × List Char) :=
  (Json.readHex? n 0 cs).bind fun (code, rest) => (charOf? code).map (·, rest)

/-- The character after a backslash. -/
def readEscape? : List Char → Option (Char × List Char)
  | '"' :: cs => some ('"', cs)
  | '\\' :: cs => some ('\\', cs)
  | 'b' :: cs => some ('\x08', cs)
  | 'e' :: cs => some ('\x1B', cs)
  | 'f' :: cs => some ('\x0C', cs)
  | 'n' :: cs => some ('\n', cs)
  | 'r' :: cs => some ('\r', cs)
  | 't' :: cs => some ('\t', cs)
  | 'x' :: cs => readCodePoint? 2 cs
  | 'u' :: cs => readCodePoint? 4 cs
  | 'U' :: cs => readCodePoint? 8 cs
  | _ => none

/-- The rest of a string on one line with escapes, of which the characters
in `done`, last first, were read. -/
def readBasicTail? : (rounds : Nat) → (done : List Char) → List Char → Option (String × List Char)
  | 0, _, _ => none
  | _ + 1, _, [] => none
  | rounds + 1, done, c :: cs =>
    if c = '"' then some (String.ofList done.reverse, cs)
    else if c = '\\' then
      match readEscape? cs with
      | some (c, cs) => readBasicTail? rounds (c :: done) cs
      | none => none
    else if isForbidden c then none
    else readBasicTail? rounds (c :: done) cs

/-- A string on one line without escapes, of which the first quote is gone. -/
def readLiteral? (cs : List Char) : Option (String × List Char) :=
  let body := cs.takeWhile (· != '\'')
  match cs.dropWhile (· != '\'') with
  | _ :: rest => if body.any isForbidden then none else some (String.ofList body, rest)
  | [] => none

/-- A string on one line. -/
def readString? : List Char → Option (String × List Char)
  | '"' :: cs => readBasicTail? (cs.length + 1) [] cs
  | '\'' :: cs => readLiteral? cs
  | _ => none

/-- The end of a string on several lines: three quotes, before which one or
two more may belong to the string. They are returned with the rest. -/
def readClosing? (quote : Char) (cs : List Char) : Option (List Char × List Char) :=
  let run := (cs.takeWhile (· == quote)).length
  if run < 3 then none
  else
    let kept := min (run - 3) 2
    some (List.replicate kept quote, cs.drop (kept + 3))

/-- A backslash at the end of a line stands for nothing, like all blanks and
line ends behind it. -/
def skipContinuation? (cs : List Char) : Option (List Char) :=
  (readLineEnd? (skipBlank cs)).map fun (_, rest) => skipSpace rest.length rest

/-- The rest of a string on several lines, of which the characters in
`done`, last first, were read. -/
def readBlockTail? (quote : Char) :
    (rounds : Nat) → (done : List Char) → List Char → Option (String × List Char)
  | 0, _, _ => none
  | _ + 1, _, [] => none
  | rounds + 1, done, c :: cs =>
    match readClosing? quote (c :: cs) with
    | some (kept, rest) => some (String.ofList (done.reverse ++ kept), rest)
    | none =>
      if c = '\\' ∧ quote = '"' then
        match readEscape? cs with
        | some (c, rest) => readBlockTail? quote rounds (c :: done) rest
        | none => (skipContinuation? cs).bind (readBlockTail? quote rounds done)
      else
        match readLineEnd? (c :: cs) with
        | some (lineEnd, rest) => readBlockTail? quote rounds (lineEnd.reverse ++ done) rest
        | none => if isForbidden c then none else readBlockTail? quote rounds (c :: done) cs

/-- A string on several lines, of which the opening quotes are gone; a
line end right behind them does not belong to it. -/
def readBlock? (quote : Char) (cs : List Char) : Option (String × List Char) :=
  let cs := ((readLineEnd? cs).map (·.2)).getD cs
  readBlockTail? quote (cs.length + 1) [] cs

/-- A string of any kind. -/
def readText? : List Char → Option (String × List Char)
  | '"' :: '"' :: '"' :: cs => readBlock? '"' cs
  | '\'' :: '\'' :: '\'' :: cs => readBlock? '\'' cs
  | cs => readString? cs

/-! ## Keys -/

/-- One part of a key. -/
def readKeyPart? (cs : List Char) : Option (String × List Char) :=
  match cs with
  | '"' :: _ | '\'' :: _ => readString? cs
  | cs =>
    let isBare (c : Char) : Bool := c.isAlphanum || c == '_' || c == '-'
    match cs.takeWhile isBare with
    | [] => none
    | name => some (String.ofList name, cs.dropWhile isBare)

/-- The parts of a key, and the rest after the blanks behind it. -/
def readKeyParts? : (rounds : Nat) → List Char → Option (List String × List Char)
  | 0, _ => none
  | rounds + 1, cs =>
    match readKeyPart? (skipBlank cs) with
    | none => none
    | some (part, rest) =>
      match skipBlank rest with
      | '.' :: rest => (readKeyParts? rounds rest).map fun (parts, rest) => (part :: parts, rest)
      | rest => some ([part], rest)

/-- A key of at most `maxLevels` parts, and the rest after the
blanks behind it. -/
def readKey? (cs : List Char) : Option (List String × List Char) := readKeyParts? maxLevels cs

end DistLock.Toml
