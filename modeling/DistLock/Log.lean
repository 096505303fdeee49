import DistLock.Error
import DistLock.Text.Duration

/-!
# Log

What the client reports while it works. Each event has a level, a text, and
fields with the facts.
-/

namespace DistLock

inductive LogLevel where
  | debug
  | warn
  | error
  deriving DecidableEq, Repr

def LogLevel.name : LogLevel → String
  | .debug => "DEBUG"
  | .warn => "WARN"
  | .error => "ERROR"

/-- The value of a field. -/
inductive LogValue where
  | text (s : String)
  | number (n : Int)
  deriving DecidableEq, Repr

inductive LogEvent where
  /-- An answer held a decision against the request. -/
  | requestRejected (operation : Operation) (code : Int32) (message : String)
  | retriesExhausted (operation : Operation) (retries : UInt32) (status : Status)
  /-- A call is tried again after a pause. -/
  | retrying (operation : Operation) (retries : UInt32) (status : Status) (pause : Nat)
  | renewerStarted (name : String) (seconds : Nat)
  | leaseRefreshed (name : String) (count : Nat)
  /-- The renewal of a lease ended because of an error. -/
  | renewalFailed (name : String) (error : ClientError)
  | renewerStopped (name : String)
  | waitTimedOut (name : String)
  | lockAcquired (name : String) (lease : UInt32)
  | lockReleased (name : String)
  /-- The owner is gone and nothing can release its lock. -/
  | leftToExpire (name : String)
  /-- The owner is gone and its lock is released in the background. -/
  | releasingInBackground (name : String)
  /-- The renewal had failed before its lock was released in the background. -/
  | renewalHadFailed (name : String) (error : ClientError)
  | unlockRefused (name : String)
  | unlockFailed (name : String) (error : ClientError)
  deriving DecidableEq, Repr

namespace LogEvent

def level : LogEvent → LogLevel
  | .retriesExhausted .. | .retrying .. | .releasingInBackground .. => .warn
  | .renewalFailed .. | .leftToExpire .. | .renewalHadFailed .. | .unlockRefused ..
  | .unlockFailed .. => .error
  | _ => .debug

def text : LogEvent → String
  | .requestRejected .. => "Server rejected request"
  | .retriesExhausted .. => "Giving up after exhausting retries"
  | .retrying _ _ _ pause => "Transport failure, retrying in " ++ Text.duration pause
  | .renewerStarted .. => "Started lease renewer"
  | .leaseRefreshed .. => "Refreshed lock lease"
  | .renewalFailed .. => "Lease renewal stopped"
  | .renewerStopped .. => "Stopped lease renewer"
  | .waitTimedOut .. => "Wait timeout exceeded, lock not acquired"
  | .lockAcquired .. => "Acquired lock"
  | .lockReleased .. => "Released lock"
  | .leftToExpire .. => "Lock session dropped outside a tokio runtime, lock left to expire"
  | .releasingInBackground .. => "Lock session dropped while held, releasing in background"
  | .renewalHadFailed .. => "Lease renewal had failed"
  | .unlockRefused .. => "Failed to unlock: server reported unlocked=false"
  | .unlockFailed .. => "Failed to unlock"

private def attempt (operation : Operation) (retries : UInt32) (status : Status) :
    List (String × LogValue) :=
  [("operation", .text operation.name), ("retries", .number retries.toNat),
    ("error", .text status.text)]

/-- The facts of an event, by name. -/
def fields : LogEvent → List (String × LogValue)
  | .requestRejected operation code message =>
    [("operation", .text operation.name), ("code", .number code.toInt),
      ("message", .text message)]
  | .retriesExhausted operation retries status => attempt operation retries status
  | .retrying operation retries status _ => attempt operation retries status
  | .renewerStarted name seconds => [("name", .text name), ("interval_secs", .number seconds)]
  | .leaseRefreshed name count => [("name", .text name), ("count", .number count)]
  | .renewalFailed name error => [("name", .text name), ("error", .text error.message)]
  | .renewerStopped name => [("name", .text name)]
  | .waitTimedOut name => [("name", .text name)]
  | .lockAcquired name lease =>
    [("name", .text name), ("lease_timeout_seconds", .number lease.toNat)]
  | .lockReleased name => [("name", .text name)]
  | .leftToExpire name => [("name", .text name)]
  | .releasingInBackground name => [("name", .text name)]
  | .renewalHadFailed name error => [("name", .text name), ("error", .text error.message)]
  | .unlockRefused name => [("name", .text name)]
  | .unlockFailed name error => [("name", .text name), ("error", .text error.message)]

end LogEvent

end DistLock
