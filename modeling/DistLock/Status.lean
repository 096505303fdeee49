import DistLock.Text.Quoted

/-!
# Statuses of calls

A call that the service did not answer ends with a status: one of
seventeen codes and a message. Only `unavailable` says that the same call
may succeed later.
-/

namespace DistLock

/-- The reason for which a call was not answered. -/
inductive StatusCode where
  | ok
  | cancelled
  | unknown
  | invalidArgument
  | deadlineExceeded
  | notFound
  | alreadyExists
  | permissionDenied
  | resourceExhausted
  | failedPrecondition
  | aborted
  | outOfRange
  | unimplemented
  | internal
  | unavailable
  | dataLoss
  | unauthenticated
  deriving DecidableEq, Repr

namespace StatusCode

/-- The number of a code. -/
def toNat : StatusCode → Nat
  | .ok => 0
  | .cancelled => 1
  | .unknown => 2
  | .invalidArgument => 3
  | .deadlineExceeded => 4
  | .notFound => 5
  | .alreadyExists => 6
  | .permissionDenied => 7
  | .resourceExhausted => 8
  | .failedPrecondition => 9
  | .aborted => 10
  | .outOfRange => 11
  | .unimplemented => 12
  | .internal => 13
  | .unavailable => 14
  | .dataLoss => 15
  | .unauthenticated => 16

/-- The code with a number; all other numbers stand for `unknown`. -/
def ofInt : Int → StatusCode
  | 0 => .ok
  | 1 => .cancelled
  | 3 => .invalidArgument
  | 4 => .deadlineExceeded
  | 5 => .notFound
  | 6 => .alreadyExists
  | 7 => .permissionDenied
  | 8 => .resourceExhausted
  | 9 => .failedPrecondition
  | 10 => .aborted
  | 11 => .outOfRange
  | 12 => .unimplemented
  | 13 => .internal
  | 14 => .unavailable
  | 15 => .dataLoss
  | 16 => .unauthenticated
  | _ => .unknown

def description : StatusCode → String
  | .ok => "The operation completed successfully"
  | .cancelled => "The operation was cancelled"
  | .unknown => "Unknown error"
  | .invalidArgument => "Client specified an invalid argument"
  | .deadlineExceeded => "Deadline expired before operation could complete"
  | .notFound => "Some requested entity was not found"
  | .alreadyExists => "Some entity that we attempted to create already exists"
  | .permissionDenied =>
    "The caller does not have permission to execute the specified operation"
  | .resourceExhausted => "Some resource has been exhausted"
  | .failedPrecondition =>
    "The system is not in a state required for the operation's execution"
  | .aborted => "The operation was aborted"
  | .outOfRange => "Operation was attempted past the valid range"
  | .unimplemented => "Operation is not implemented or not supported"
  | .internal => "Internal error"
  | .unavailable => "The service is currently unavailable"
  | .dataLoss => "Unrecoverable data loss or corruption"
  | .unauthenticated => "The request does not have valid authentication credentials"

@[simp] theorem ofInt_toNat (c : StatusCode) : ofInt c.toNat = c := by cases c <;> rfl

end StatusCode

/-- How a call ended that was not answered. -/
structure Status where
  code : StatusCode
  message : String := ""
  /-- The connection itself failed, so the code and the message are not the
  words of the service. -/
  disconnected : Bool := false
  deriving DecidableEq, Repr

/-- The text of a status; an empty message is left out. -/
def Status.text (s : Status) : String :=
  "code: '" ++ s.code.description ++ "'"
    ++ if s.message = "" then "" else ", message: " ++ Text.Quoted.quote s.message

/-- A call that ended so may be tried again. -/
def Status.isTransient (s : Status) : Bool := s.code == .unavailable

end DistLock
