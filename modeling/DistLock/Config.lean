import DistLock.Config.Environment
import DistLock.Config.Files
import DistLock.Error
import DistLock.Retry
import DistLock.Text.Blank

/-!
# Configuration of a client

How to reach a lock service and how to behave towards it. A configuration is
built in code, or loaded: from the defaults, over them a file if there is
one, and over both the environment. Only the settings that are effective in
the end are converted to their types, and what was loaded is validated.
-/

namespace DistLock

structure ClientConfig where
  /-- The host and port of the service. -/
  address : String := "localhost:3144"
  password : Option String := none
  useTls : Bool := false
  /-- The certificate authority by which the service is verified. -/
  caFile : Option String := none
  /-- The certificate and the key of the client. -/
  tlsCert : Option String := none
  tlsKey : Option String := none
  /-- Leases are not renewed in the background. -/
  noAutoRefresh : Bool := false
  /-- Retries of unanswered calls; zero for no limit. -/
  maxRetries : UInt32 := 0
  retryIntervalSeconds : UInt64 := 5
  deriving DecidableEq, Repr

namespace ClientConfig

/-! ## Building -/

def withPassword (c : ClientConfig) (password : String) : ClientConfig :=
  { c with password := some password }

def withTls (c : ClientConfig) (caFile : Option String) : ClientConfig :=
  { c with useTls := true, caFile }

def withClientIdentity (c : ClientConfig) (cert key : String) : ClientConfig :=
  { c with tlsCert := some cert, tlsKey := some key }

def withMaxRetries (c : ClientConfig) (n : UInt32) : ClientConfig := { c with maxRetries := n }

def withRetryInterval (c : ClientConfig) (seconds : UInt64) : ClientConfig :=
  { c with retryIntervalSeconds := seconds }

def withoutAutoRefresh (c : ClientConfig) : ClientConfig := { c with noAutoRefresh := true }

/-! ## Meaning -/

/-- The connection is encrypted: by request, or because the client
has a certificate. -/
def usesTls (c : ClientConfig) : Bool := c.useTls || c.tlsCert.isSome

def retryPolicy (c : ClientConfig) : RetryPolicy := .ofSeconds c.retryIntervalSeconds c.maxRetries

/-- There is an address, and a certificate of the client comes with its key. -/
def validate (c : ClientConfig) : Except ClientError Unit :=
  if Text.isBlankText c.address then
    .error (.invalidRequest "server address must not be empty")
  else if c.tlsCert.isSome ≠ c.tlsKey.isSome then
    .error (.invalidRequest "tls_cert and tls_key must be set together")
  else .ok ()

end ClientConfig

/-! ## Loading -/

namespace Settings

/-- A setting converted to its type; one that is not there has its default. -/
def read {α : Type} (s : Settings) (key : String) (default : α)
    (convert : SettingValue → Except Mismatch α) : Except ConfigError α :=
  match s.get? key with
  | none => .ok default
  | some x => (convert x.value).mapError fun mismatch => .wrongType mismatch key x.origin

/-- A setting that may also be left empty. -/
def readOptional {α : Type} (s : Settings) (key : String)
    (convert : SettingValue → Except Mismatch α) : Except ConfigError (Option α) :=
  s.read key none fun
    | .unit => .ok none
    | v => (convert v).map some

/-- A number of 32 bits. One that is too large is reported
without its origin. -/
def readUInt32 (s : Settings) (key : String) (default : UInt32) : Except ConfigError UInt32 := do
  let n ← s.read key default.toUInt64 (·.toUnsigned)
  if n.toNat < UInt32.size then pure n.toUInt32
  else throw (.wrongType ⟨.unsigned n.toNat, "an unsigned 32 bit integer"⟩ key none)

/-- The configuration that settings make. -/
def toConfig (s : Settings) : Except ConfigError ClientConfig := do
  let base : ClientConfig := {}
  pure
    { address := ← s.read "address" base.address (·.toText)
      password := ← s.readOptional "password" (·.toText)
      useTls := ← s.read "use_tls" base.useTls (·.toBool)
      caFile := ← s.readOptional "ca_file" (·.toText)
      tlsCert := ← s.readOptional "tls_cert" (·.toText)
      tlsKey := ← s.readOptional "tls_key" (·.toText)
      noAutoRefresh := ← s.read "no_auto_refresh" base.noAutoRefresh (·.toBool)
      maxRetries := ← s.readUInt32 "max_retries" base.maxRetries
      retryIntervalSeconds :=
        ← s.read "retry_interval_seconds" base.retryIntervalSeconds (·.toUnsigned) }

/-- The settings of a file. -/
def ofFile (d : Directory) (path : String) : Except ConfigError Settings := do
  let found ← d.find path
  match found.entries? with
  | some entries => pure (putAll [] found.origin entries)
  | none => throw .malformedFile

end Settings

namespace ClientConfig

/-- Loads a configuration from a file, if one is given, and the environment. -/
def load (d : Directory) (env : List (String × String)) (file : Option String) :
    Except ClientError ClientConfig := do
  let settings ← match file with
    | some path => (Settings.ofFile d path).mapError .config
    | none => pure []
  let settings := settings.putAll Environment.origin (Environment.entries env)
  let config ← settings.toConfig.mapError .config
  config.validate
  pure config

end ClientConfig

end DistLock
