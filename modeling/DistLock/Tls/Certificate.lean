import DistLock.Tls.Der

/-!
# Certificates

Of a certificate, only the public key is needed. A certificate has to be
sound in form all the same: it is of the third version, says twice by which
algorithm it was signed, and has no critical extension that is not known.
Neither its signature nor its dates are looked at.
-/

namespace DistLock

structure Certificate where
  /-- The algorithm of the key and the key itself. -/
  publicKey : List UInt8
  deriving DecidableEq, Repr

namespace Certificate

/-! ## Extensions -/

structure Extension where
  id : List UInt8
  critical : Bool
  value : List UInt8
  deriving DecidableEq, Repr

/-- The value of a truth value. -/
def truth? : List UInt8 → Option Bool
  | [0xFF] => some true
  | [0x00] => some false
  | _ => none

/-- The extension that the content of a sequence is. -/
def Extension.read? (bs : List UInt8) : Option Extension := do
  let (id, bs) ← Der.read? Der.Tag.objectId bs
  let (flag, bs) ← Der.optional? Der.Tag.boolean bs
  let critical ← flag.elim (some false) truth?
  let value ← Der.whole? Der.Tag.octetString bs
  some { id, critical, value }

/-- The extensions in a row of sequences. Every extension takes
a byte or more. -/
def readExtensions? : (rounds : Nat) → List UInt8 → Option (List Extension)
  | 0, bs => if bs.isEmpty then some [] else none
  | rounds + 1, bs =>
    if bs.isEmpty then some []
    else
      match Der.read? Der.Tag.sequence bs with
      | none => none
      | some (content, rest) =>
        match Extension.read? content, readExtensions? rounds rest with
        | some e, some es => some (e :: es)
        | _, _ => none

/-- The identifier of the standard extension with a number. -/
def standardId (n : UInt8) : List UInt8 := [0x55, 0x1D, n]

/-- What a key may be used for, in rows of bits. -/
def keyUsage : List UInt8 := standardId 15

/-- The extensions that are known: the uses of the key, other names, whether
the certificate may sign others, for which names, where they are revoked,
and extended uses. -/
def knownExtensions : List (List UInt8) := [15, 17, 19, 30, 31, 37].map standardId

/-- The extension may stand in a certificate. -/
def Extension.isAllowed (e : Extension) : Bool :=
  if knownExtensions.contains e.id then
    e.id == keyUsage || (Der.whole? Der.Tag.sequence e.value).isSome
  else !e.critical

/-- Each extension may stand in a certificate, and known ones
stand there once. -/
def areAllowed : List Extension → Bool
  | [] => true
  | e :: es =>
    e.isAllowed && !(knownExtensions.contains e.id && es.any (·.id == e.id)) && areAllowed es

/-- The end of a certificate: nothing, or extensions. -/
def isEnd (bs : List UInt8) : Bool :=
  bs.isEmpty
    || (((Der.whole? (Der.Tag.marked 3) bs).bind (Der.whole? Der.Tag.sequence)).bind fun content =>
      readExtensions? content.length content).any areAllowed

/-! ## Reading -/

/-- How the third version is written. -/
def version : List UInt8 := Der.writeNat 2

/-- What is signed, apart from the extensions: version, serial number,
algorithm, issuer, dates, subject, public key. -/
def readBody? (algorithm bs : List UInt8) : Option Certificate := do
  let (v, bs) ← Der.read? (Der.Tag.marked 0) bs
  let (_, bs) ← Der.read? Der.Tag.integer bs
  let (inner, bs) ← Der.read? Der.Tag.sequence bs
  let (_, bs) ← Der.read? Der.Tag.sequence bs
  let (_, bs) ← Der.read? Der.Tag.sequence bs
  let (_, bs) ← Der.read? Der.Tag.sequence bs
  let (publicKey, bs) ← Der.read? Der.Tag.sequence bs
  if v == version && inner == algorithm && isEnd bs then some { publicKey } else none

/-- The certificate that bytes are. -/
def read? (bs : List UInt8) : Option Certificate := do
  let (body, bs) ← Der.read? Der.Tag.sequence (← Der.whole? Der.Tag.sequence bs)
  let (algorithm, bs) ← Der.read? Der.Tag.sequence bs
  let _ ← Der.bits? (← Der.whole? Der.Tag.bitString bs)
  readBody? algorithm body

end Certificate

end DistLock
