/-!
# URIs of endpoints

A URI is `http` or `https`, an authority, and a path with an optional query.
The authority is a host with an optional port behind it and optional user
information before it; a host in brackets may hold colons of its own.

The grammar is that of characters: ports are not checked to be numbers.
-/

namespace DistLock

inductive Scheme where
  | http
  | https
  deriving DecidableEq, Repr

def Scheme.name : Scheme → String
  | .http => "http"
  | .https => "https"

structure Uri where
  scheme : Scheme
  authority : String
  /-- Path and query, as far as they are given. -/
  path : String := ""
  deriving DecidableEq, Repr

/-! ## Authorities -/

namespace Authority

/-- Characters that end an authority. -/
def isEnd (c : Char) : Bool := c == '/' || c == '?' || c == '#'

/-- Characters of an authority, apart from the percent sign. -/
def isAuthorityChar (c : Char) : Bool :=
  c.isAlphanum || c ∈ ['!', '$', '&', '\'', '(', ')', '*', '+', ',', '-', '.', ':', ';', '=', '@',
    '[', ']', '_', '~']

/-- What was seen of an authority. User information and brackets make what
was seen before them count no more. -/
structure Scan where
  colons : Nat := 0
  opened : Bool := false
  closed : Bool := false
  percent : Bool := false
  deriving DecidableEq, Repr

/-- The most colons there may be, one after the other. -/
def maxColons : Nat := 8

/-- Looks at the next character. -/
def Scan.next? (s : Scan) (c : Char) : Option Scan :=
  if c = '%' then some { s with percent := true }
  else if !isAuthorityChar c then none
  else if c = ':' then
    if maxColons ≤ s.colons then none else some { s with colons := s.colons + 1 }
  else if c = '[' then
    if s.percent || s.opened then none else some { s with opened := true }
  else if c = ']' then
    if !s.opened || s.closed then none
    else some { s with closed := true, colons := 0, percent := false }
  else if c = '@' then some { s with colons := 0, percent := false }
  else some s

/-- Brackets are closed, at most one colon is left over for a port, and
no percent sign. -/
def Scan.isComplete (s : Scan) : Bool := s.opened == s.closed && s.colons ≤ 1 && !s.percent

/-- The characters form an authority. -/
def isValid (cs : List Char) : Bool :=
  !cs.isEmpty && cs.getLast? != some '@' && (cs.foldlM Scan.next? {}).any (·.isComplete)

/-- The host: what stands behind the user information, and before the port. -/
def host (authority : String) : String :=
  let cs := (authority.toList.reverse.takeWhile (· != '@')).reverse
  match cs with
  | '[' :: _ => String.ofList (cs.takeWhile (· != ']') ++ [']'])
  | cs => String.ofList (cs.takeWhile (· != ':'))

end Authority

/-! ## Paths -/

namespace UriPath

/-- Characters of a path, apart from its end. -/
def isPathChar (c : Char) : Bool :=
  let n := c.toNat
  n == 0x21 || n == 0x22 || (0x24 ≤ n && n ≤ 0x3B) || n == 0x3D || (0x40 ≤ n && n ≤ 0x5F)
    || (0x61 ≤ n && n != 0x7F)

/-- Characters of a query, apart from its end. -/
def isQueryChar (c : Char) : Bool :=
  let n := c.toNat
  n == 0x21 || (0x24 ≤ n && n ≤ 0x3B) || n == 0x3D || (0x3F ≤ n && n != 0x7F)

/-- The path and the query of what follows an authority,
without the fragment. -/
def read? (cs : List Char) : Option String :=
  let kept := cs.takeWhile (· != '#')
  let path := kept.takeWhile (· != '?')
  let query := kept.dropWhile (· != '?')
  if path.all isPathChar && query.all isQueryChar then some (String.ofList kept) else none

end UriPath

namespace Uri

/-- The most bytes of a URI. -/
def maxSize : Nat := 65534

/-- The scheme at the front. -/
def readScheme? (cs : List Char) : Option (Scheme × List Char) :=
  let startsWith (word : String) : Bool :=
    word.toList.isPrefixOf (cs.map Char.toLower)
  if startsWith "http://" then some (.http, cs.drop 7)
  else if startsWith "https://" then some (.https, cs.drop 8)
  else none

def parse? (s : String) : Option Uri :=
  if maxSize < s.utf8ByteSize then none
  else
    match readScheme? s.toList with
    | none => none
    | some (scheme, cs) =>
      let authority := cs.takeWhile (!Authority.isEnd ·)
      if !Authority.isValid authority then none
      else
        (UriPath.read? (cs.dropWhile (!Authority.isEnd ·))).map fun path =>
          { scheme, authority := String.ofList authority, path }

def host (u : Uri) : String := Authority.host u.authority

end Uri

end DistLock
