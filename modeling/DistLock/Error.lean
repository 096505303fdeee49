import DistLock.Config.Error
import DistLock.Message
import DistLock.Status

/-!
# Errors of the client

Every way in which an operation of the client fails. An error is a
*decision of the service* (`isServerDecision`) when the service answered
and its answer was no; such an error is final, whereas a status says only
that there was no answer.
-/

namespace DistLock

/-- Why there is no channel to an endpoint. -/
inductive ChannelError where
  /-- The address does not form a URI. -/
  | invalidUri
  /-- The certificates or the name of the server cannot be used. -/
  | unusableTls
  deriving DecidableEq, Repr

def ChannelError.message : ChannelError → String
  | .invalidUri => "invalid URI"
  | .unusableTls => "transport error"

/-- Why an operation failed. -/
inductive ClientError where
  /-- A call was not answered. -/
  | unanswered (status : Status)
  | channel (e : ChannelError)
  | lockDoesNotExist
  | invalidLockKey
  | lockWaitTimeout
  | notLocked
  | lockDoesNotExistOrInvalidKey
  | lockSizeMismatch
  | invalidLockSize
  /-- A decision of the service for which there is no other error. -/
  | server (code : Int32) (message : String)
  /-- The service did not take back a lock that was held. -/
  | releaseFailed (name reason : String)
  /-- The lease of a lock that was held could not be renewed. -/
  | renewalFailed (name : String) (source : ClientError)
  | invalidRequest (message : String)
  | invalidState (message : String)
  | config (e : ConfigError)
  | other (message : String)
  deriving DecidableEq, Repr

namespace ClientError

def message : ClientError → String
  | .unanswered status => "gRPC error: " ++ status.text
  | .channel e => "transport error: " ++ e.message
  | .lockDoesNotExist => "lock does not exist"
  | .invalidLockKey => "invalid lock key"
  | .lockWaitTimeout => "lock wait timeout exceeded"
  | .notLocked => "lock is not locked"
  | .lockDoesNotExistOrInvalidKey => "lock does not exist or invalid key"
  | .lockSizeMismatch => "lock size mismatch"
  | .invalidLockSize => "invalid lock size"
  | .server code message =>
    "server returned error: code=" ++ toString code.toInt ++ ", message=" ++ message
  | .releaseFailed name reason => "failed to unlock " ++ name ++ ": " ++ reason
  | .renewalFailed name source => "lease renewal for " ++ name ++ " failed: " ++ source.message
  | .invalidRequest message => "invalid request: " ++ message
  | .invalidState message => "invalid session state: " ++ message
  | .config e => "configuration error: " ++ e.message
  | .other message => message

/-- The service answered, and its answer was no. -/
def isServerDecision : ClientError → Bool
  | .lockDoesNotExist | .invalidLockKey | .lockWaitTimeout | .notLocked
  | .lockDoesNotExistOrInvalidKey | .lockSizeMismatch | .invalidLockSize | .server _ _ => true
  | _ => false

/-- The messages of the causes of an error, each followed by its own cause. -/
def causes : ClientError → List String
  | .unanswered status => [status.text]
  | .channel e => [e.message]
  | .renewalFailed _ source => source.message :: source.causes
  | .config e => [e.message]
  | .other message => [message]
  | _ => []

/-- The error for a decision of the service. Codes without an error of their
own keep their number and message. -/
def ofDecision (e : RpcError) : ClientError :=
  match ErrorCode.ofInt32? e.code with
  | some .lockDoesNotExist => .lockDoesNotExist
  | some .invalidLockKey => .invalidLockKey
  | some .lockWaitTimeout => .lockWaitTimeout
  | some .notLocked => .notLocked
  | some .lockDoesNotExistOrInvalidKey => .lockDoesNotExistOrInvalidKey
  | some .lockSizeMismatch => .lockSizeMismatch
  | some .invalidLockSize => .invalidLockSize
  | some .unknown | none => .server e.code e.message

end ClientError

end DistLock
