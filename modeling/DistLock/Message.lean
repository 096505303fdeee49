/-!
# Messages of the lock service

The requests and responses that a client and the service exchange, and the
decisions of the service that travel inside responses.

A number that is left unset in a request means "as the server has it by
default", so the functions that build requests leave a number unset when it
is given as zero, and bring larger numbers than a signed 32-bit field can
hold down to the largest that it can.
-/

namespace DistLock

/-- Why the service refused a request. -/
inductive ErrorCode where
  | unknown
  | lockDoesNotExist
  | invalidLockKey
  | lockWaitTimeout
  | notLocked
  | lockDoesNotExistOrInvalidKey
  | lockSizeMismatch
  | invalidLockSize
  deriving DecidableEq, Repr

namespace ErrorCode

/-- The number of a code in messages. -/
def toInt32 : ErrorCode → Int32
  | .unknown => 0
  | .lockDoesNotExist => 1
  | .invalidLockKey => 2
  | .lockWaitTimeout => 3
  | .notLocked => 4
  | .lockDoesNotExistOrInvalidKey => 5
  | .lockSizeMismatch => 6
  | .invalidLockSize => 7

def all : List ErrorCode :=
  [.unknown, .lockDoesNotExist, .invalidLockKey, .lockWaitTimeout, .notLocked,
    .lockDoesNotExistOrInvalidKey, .lockSizeMismatch, .invalidLockSize]

/-- The code with the given number. -/
def ofInt32? (n : Int32) : Option ErrorCode := all.find? (·.toInt32 == n)

def name : ErrorCode → String
  | .unknown => "Unknown"
  | .lockDoesNotExist => "LockDoesNotExist"
  | .invalidLockKey => "InvalidLockKey"
  | .lockWaitTimeout => "LockWaitTimeout"
  | .notLocked => "NotLocked"
  | .lockDoesNotExistOrInvalidKey => "LockDoesNotExistOrInvalidKey"
  | .lockSizeMismatch => "LockSizeMismatch"
  | .invalidLockSize => "InvalidLockSize"

theorem ofInt32?_toInt32 (c : ErrorCode) : ofInt32? c.toInt32 = some c := by
  cases c <;> decide

/-- What is said of a number that is no code. -/
def unknownMessage (n : Int32) : String := s!"unknown enumeration value {n.toInt}"

end ErrorCode

/-- A decision of the service against a request. The number need not
be a known code. -/
structure RpcError where
  code : Int32 := 0
  message : String := ""
  deriving DecidableEq, Repr

namespace RpcError

def ofCode (code : ErrorCode) (message : String) : RpcError := ⟨code.toInt32, message⟩

/-- The code of the decision; numbers that are no code count as unknown. -/
def codeOrUnknown (e : RpcError) : ErrorCode := (ErrorCode.ofInt32? e.code).getD .unknown

end RpcError

/-! ## Numbers of requests -/

/-- The largest number of a signed field. -/
def maxFieldNumber : Nat := 2147483647

/-- `n`, or the largest number that a signed field can hold. -/
def clampNumber (n : UInt32) : Int32 := Int32.ofNat (min n.toNat maxFieldNumber)

/-- Zero is left unset. -/
def nonZeroNumber (n : UInt32) : Option Int32 := if n = 0 then none else some (clampNumber n)

/-! ## Requests -/

/-- Takes a lock, waiting for it. -/
structure LockRequest where
  name : String := ""
  waitTimeout : Option Int32 := none
  lease : Option Int32 := none
  size : Option Int32 := none
  deriving DecidableEq, Repr

namespace LockRequest

def withWaitTimeout (r : LockRequest) (seconds : UInt32) : LockRequest :=
  { r with waitTimeout := nonZeroNumber seconds }

def withLease (r : LockRequest) (seconds : UInt32) : LockRequest :=
  { r with lease := nonZeroNumber seconds }

def withSize (r : LockRequest) (size : UInt32) : LockRequest :=
  { r with size := nonZeroNumber size }

end LockRequest

/-- Takes a lock only if it is free. -/
structure TryLockRequest where
  name : String := ""
  lease : Option Int32 := none
  size : Option Int32 := none
  deriving DecidableEq, Repr

namespace TryLockRequest

def withLease (r : TryLockRequest) (seconds : UInt32) : TryLockRequest :=
  { r with lease := nonZeroNumber seconds }

def withSize (r : TryLockRequest) (size : UInt32) : TryLockRequest :=
  { r with size := nonZeroNumber size }

end TryLockRequest

/-- Starts the lease of a held lock anew. -/
structure RefreshLockRequest where
  name : String := ""
  key : String := ""
  lease : Int32 := 0
  deriving DecidableEq, Repr

def RefreshLockRequest.ofSeconds (name key : String) (lease : UInt32) : RefreshLockRequest :=
  ⟨name, key, clampNumber lease⟩

/-- Gives a lock back. -/
structure UnlockRequest where
  name : String := ""
  key : String := ""
  deriving DecidableEq, Repr

/-! ## Responses -/

/-- The answer to a request for a lock and to one for a fresh lease. -/
structure LockResponse where
  locked : Bool := false
  name : String := ""
  key : String := ""
  error : Option RpcError := none
  deriving DecidableEq, Repr

namespace LockResponse

def granted (name key : String) : LockResponse := { locked := true, name, key }

def refused (name : String) : LockResponse := { name }

end LockResponse

/-- The answer to the return of a lock. -/
structure UnlockResponse where
  unlocked : Bool := false
  name : String := ""
  error : Option RpcError := none
  deriving DecidableEq, Repr

/-- A response in which the service can place a decision. -/
class HasDecision (α : Type) where
  decision : α → Option RpcError

export HasDecision (decision)

instance : HasDecision LockResponse := ⟨(·.error)⟩

instance : HasDecision UnlockResponse := ⟨(·.error)⟩

/-! ## The four operations -/

/-- The operations of the service. -/
inductive Operation where
  | lock
  | tryLock
  | refreshLock
  | unlock
  deriving DecidableEq, Repr

def Operation.name : Operation → String
  | .lock => "Lock"
  | .tryLock => "TryLock"
  | .refreshLock => "RefreshLock"
  | .unlock => "Unlock"

/-- A request together with the operation it is for. -/
inductive Request where
  | lock (r : LockRequest)
  | tryLock (r : TryLockRequest)
  | refreshLock (r : RefreshLockRequest)
  | unlock (r : UnlockRequest)
  deriving DecidableEq, Repr

def Request.operation : Request → Operation
  | .lock _ => .lock
  | .tryLock _ => .tryLock
  | .refreshLock _ => .refreshLock
  | .unlock _ => .unlock

/-- The lock that a request is about. -/
def Request.name : Request → String
  | .lock r => r.name
  | .tryLock r => r.name
  | .refreshLock r => r.name
  | .unlock r => r.name

end DistLock
