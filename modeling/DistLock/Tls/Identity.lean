import DistLock.Tls.Certificate
import DistLock.Tls.PrivateKey

/-!
# Identities

A client shows who it is with a certificate and the key for it, each in a
file. The files can be used if the first certificate of the one is for the
first private key of the other.
-/

namespace DistLock

/-- The certificate and the key of a client. -/
structure ClientIdentity where
  cert : List UInt8
  key : List UInt8
  deriving DecidableEq, Repr

namespace ClientIdentity

/-- The public key in the first certificate. -/
def certifiedKey? (i : ClientIdentity) : Option (List UInt8) :=
  ((Pem.certificates? i.cert).bind List.head?).bind fun bs =>
    (Certificate.read? bs).map (·.publicKey)

/-- The public key for the private key. -/
def publicKey? (i : ClientIdentity) : Option (List UInt8) :=
  (Pem.privateKey? i.key).bind PrivateKey.publicKey?

/-- The certificate is for the key. -/
def isUsable (i : ClientIdentity) : Bool :=
  i.certifiedKey?.isSome && i.certifiedKey? == i.publicKey?

end ClientIdentity

end DistLock
