import DistLock.Client
import DistLock.Config
import DistLock.Endpoint.HostName
import DistLock.Endpoint.Uri
import DistLock.Tls.Identity

/-!
# Channels

A channel is what calls are made through: the URI that is dialled, the
settings of its encryption, and the password that goes along with each call.
Making one does not connect; it only finds out whether the configuration can
be used, in a fixed order: the configuration as such, the URI, the files of
the encryption, its settings, the password.
-/

namespace DistLock

/-- How a channel is encrypted. -/
structure TlsSettings where
  /-- The name for which the server must have a certificate. -/
  serverName : String
  ca : Option (List UInt8) := none
  identity : Option ClientIdentity := none
  deriving DecidableEq, Repr

/-- The settings can be used: the file of authorities is whole, whatever its
certificates are, the identity is sound, and the server has a name. -/
def TlsSettings.isUsable (tls : TlsSettings) : Bool :=
  tls.ca.all (fun file => (Pem.read file).isWhole)
    && tls.identity.all (·.isUsable) && HostName.isServerName tls.serverName

structure Channel where
  uri : Uri
  tls : Option TlsSettings := none
  /-- What is sent as proof of identity. -/
  authorization : Option (List UInt8) := none
  deriving DecidableEq, Repr

namespace Channel

/-! ## Addresses -/

/-- The address has a scheme of its own. -/
def hasScheme (address : String) : Bool :=
  "http://".toList.isPrefixOf address.toList || "https://".toList.isPrefixOf address.toList

/-- The URI for an address; a scheme that it has is kept. -/
def serverUri (address : String) (tls : Bool) : String :=
  if hasScheme address then address
  else (if tls then Scheme.https else Scheme.http).name ++ "://" ++ address

/-- Takes a word away from the front as often as it stands there. -/
def dropRepeated (word : List Char) : (rounds : Nat) → List Char → List Char
  | 0, cs => cs
  | rounds + 1, cs =>
    if word.isPrefixOf cs then dropRepeated word rounds (cs.drop word.length) else cs

/-- The text before the last colon, or all of it. -/
def beforeLastColon (cs : List Char) : List Char :=
  match cs.reverse.dropWhile (· != ':') with
  | [] => cs
  | _ :: before => before.reverse

/-- The name by which the server at an address is known. -/
def serverHost (address : String) : String :=
  let cs := address.toList
  let cs := dropRepeated "http://".toList cs.length cs
  let cs := dropRepeated "https://".toList cs.length cs
  String.ofList (beforeLastColon cs)

/-! ## Encryption -/

/-- The bytes of a file that is needed as `role`. -/
def readFile (d : Directory) (role path : String) : Except ClientError (List UInt8) :=
  match d.file? path with
  | some bytes => .ok bytes
  | none => .error (.other ("failed to read " ++ role ++ " " ++ path))

/-- Reads the files that the encryption needs. -/
def readTls (config : ClientConfig) (d : Directory) : Except ClientError TlsSettings := do
  let ca ← match config.caFile with
    | some path => some <$> readFile d "CA certificate" path
    | none => pure none
  let identity ← match config.tlsCert, config.tlsKey with
    | some cert, some key => do
      let cert ← readFile d "TLS certificate" cert
      let key ← readFile d "TLS key" key
      pure (some { cert, key : ClientIdentity })
    | _, _ => pure none
  pure { serverName := serverHost config.address, ca, identity }

/-- The settings of the encryption, if they can be used. -/
def tlsSettings (config : ClientConfig) (d : Directory) : Except ClientError TlsSettings := do
  let tls ← readTls config d
  if tls.isUsable then pure tls else throw (.channel .unusableTls)

/-! ## Passwords -/

/-- Bytes that can go along with a call: none is a control character
other than the tab. -/
def isHeaderByte (b : UInt8) : Bool := (0x20 ≤ b && b != 0x7F) || b == 0x09

/-- The proof of identity for a password; an empty one is none. -/
def authorizationOf (password : Option String) : Except ClientError (Option (List UInt8)) :=
  match password with
  | none => .ok none
  | some password =>
    let bytes := password.toByteArray.data.toList
    if bytes.isEmpty then .ok none
    else if bytes.all isHeaderByte then .ok (some bytes)
    else .error (.invalidRequest "password contains characters not allowed in metadata")

/-! ## Making a channel -/

/-- The channel that a configuration describes. -/
def make (config : ClientConfig) (d : Directory) : Except ClientError Channel := do
  config.validate
  match Uri.parse? (serverUri config.address config.usesTls) with
  | none => throw (.channel .invalidUri)
  | some uri =>
    let tls ← if config.usesTls then some <$> tlsSettings config d else pure none
    let authorization ← authorizationOf config.password
    pure { uri, tls, authorization }

/-- The channel can carry calls: it is not to be encrypted without
settings for that. -/
def isUsable (c : Channel) : Bool := c.uri.scheme == .http || c.tls.isSome

end Channel

/-- A client for a channel that a configuration describes. -/
def Client.connect (config : ClientConfig) (d : Directory) :
    Except ClientError (Channel × Client) := do
  let channel ← Channel.make config d
  pure (channel, { policy := config.retryPolicy, autoRefresh := !config.noAutoRefresh })

end DistLock
