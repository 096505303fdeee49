import DistLock.Tls.Base64

/-!
# Files of certificates and keys

Such a file is a text with blocks in it. A block starts with a line that
says what it holds and ends with a line that says the same; between the two
there are bytes in base64. Text around the blocks does not count, and
neither do blocks of an unknown kind, but each block that starts has to end.

A line that starts a block while another one is open takes over what
was read of that one.
-/

namespace DistLock.Pem

/-- The bytes of a text in ASCII. -/
def ascii (s : String) : List UInt8 := s.toList.map fun c => .ofNat c.toNat

/-- What a block holds. -/
inductive Kind where
  | certificate
  | certificateRequest
  | revocationList
  | publicKey
  /-- A key in a form that names its algorithm. -/
  | privateKey
  | rsaPrivateKey
  | ecPrivateKey
  | helloConfig
  deriving DecidableEq, Repr

namespace Kind

def label : Kind → List UInt8
  | certificate => ascii "CERTIFICATE"
  | certificateRequest => ascii "CERTIFICATE REQUEST"
  | revocationList => ascii "X509 CRL"
  | publicKey => ascii "PUBLIC KEY"
  | privateKey => ascii "PRIVATE KEY"
  | rsaPrivateKey => ascii "RSA PRIVATE KEY"
  | ecPrivateKey => ascii "EC PRIVATE KEY"
  | helloConfig => ascii "ECHCONFIG"

def all : List Kind :=
  [certificate, certificateRequest, revocationList, publicKey, privateKey, rsaPrivateKey,
    ecPrivateKey, helloConfig]

/-- The kind with a label. -/
def ofLabel? (label : List UInt8) : Option Kind := all.find? (·.label == label)

def isPrivateKey (k : Kind) : Bool := k == privateKey || k == rsaPrivateKey || k == ecPrivateKey

end Kind

structure Block where
  kind : Kind
  content : List UInt8
  deriving DecidableEq, Repr

/-- The blocks of a file up to the first fault, and whether there was none. -/
structure Reading where
  blocks : List Block
  isWhole : Bool
  deriving DecidableEq, Repr

/-! ## Lines -/

/-- The lines of a text, of which the first one goes on after `done`, last
byte first. Both a line feed and a carriage return end a line. -/
def splitLines (done : List UInt8) : List UInt8 → List (List UInt8)
  | [] => [done.reverse]
  | b :: bs =>
    if b = 0x0A ∨ b = 0x0D then done.reverse :: splitLines [] bs else splitLines (b :: done) bs

def dash : UInt8 := 0x2D

/-- How a line starts that starts a block. -/
def opening : List UInt8 := ascii "-----BEGIN "

/-- How the line starts that ends the block with a label. -/
def closing (label : List UInt8) : List UInt8 :=
  ascii "-----END " ++ label ++ ascii "-----"

/-- The label in a line that starts a block: what stands before five dashes
at the end. Blanks between and after the dashes do not count. -/
def label? (line : List UInt8) : Option (List UInt8) :=
  let tail := (line.reverse.takeWhile fun b => b == dash || b == 0x20).reverse.dropWhile (· != dash)
  if tail.count dash = 5 then some ((line.take (line.length - tail.length)).drop opening.length)
  else none

/-! ## Blocks -/

/-- Reads lines, with the label of the open block and what was read of it. -/
def readLines : (opened : Option (List UInt8)) → (body : List UInt8) → List (List UInt8) → Reading
  | opened, _, [] => ⟨[], opened.isNone⟩
  | opened, body, line :: lines =>
    if opening.isPrefixOf line then
      match label? line with
      | some label => readLines (some label) body lines
      | none => ⟨[], false⟩
    else
      match opened with
      | none => readLines none body lines
      | some label =>
        if (closing label).isPrefixOf line then
          match Kind.ofLabel? label with
          | none => readLines none [] lines
          | some kind =>
            match Base64.decode? body with
            | some content =>
              let later := readLines none [] lines
              { later with blocks := ⟨kind, content⟩ :: later.blocks }
            | none => ⟨[], false⟩
        else readLines opened (body ++ line) lines

def read (file : List UInt8) : Reading := readLines none [] (splitLines [] file)

/-- The certificates of a file, all blocks of which must be sound. -/
def certificates? (file : List UInt8) : Option (List (List UInt8)) :=
  let r := read file
  if r.isWhole then some ((r.blocks.filter (·.kind == .certificate)).map (·.content)) else none

/-- The first private key of a file; what comes after it does not count. -/
def privateKey? (file : List UInt8) : Option Block := (read file).blocks.find? (·.kind.isPrivateKey)

end DistLock.Pem
