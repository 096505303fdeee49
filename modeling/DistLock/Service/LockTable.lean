import DistLock.Step

/-!
# A lock table

The state of a simple lock service: who holds which lock. A free lock is
granted with a key that was never used before, and a lock is free again once
it is returned with its key.
-/

namespace DistLock

structure LockTable where
  /-- The names of the locks that are held, each with its key. -/
  entries : List (String × String) := []
  /-- The number of keys that were given out. -/
  granted : Nat := 0
  deriving DecidableEq, Repr

namespace LockTable

/-- The key of a held lock. -/
def key? (t : LockTable) (name : String) : Option String := t.entries.lookup name

def isFree (t : LockTable) (name : String) : Bool := (t.key? name).isNone

/-- The lock is held by nobody. -/
def remove (t : LockTable) (name : String) : LockTable :=
  { t with entries := t.entries.filter (·.1 != name) }

/-- The lock is held with the given key. -/
def hold (t : LockTable) (name key : String) : LockTable :=
  { t with entries := (name, key) :: (t.remove name).entries }

/-- The key that is given out after `granted` others. -/
def freshKey (granted : Nat) : String := "key-" ++ toString (granted + 1)

/-- Grants a lock. -/
def grant (t : LockTable) (name : String) : LockTable × LockResponse :=
  let key := freshKey t.granted
  ({ t.hold name key with granted := t.granted + 1 }, .granted name key)

/-- Grants a lock if it is free. -/
def tryLock (t : LockTable) (name : String) : LockTable × LockResponse :=
  if t.isFree name then t.grant name else (t, .refused name)

/-- A decision against a request for a lock. -/
def refusal (name : String) (code : ErrorCode) (message : String) : LockResponse :=
  { name, error := some (.ofCode code message) }

/-- Whether a lock is held with the given key. -/
def refresh (t : LockTable) (name key : String) : LockResponse :=
  match t.key? name with
  | none => refusal name .lockDoesNotExist "lock does not exist"
  | some k => if k = key then .granted name key else refusal name .invalidLockKey "invalid lock key"

/-- Takes a lock back if it is held with the given key. -/
def unlock (t : LockTable) (name key : String) : LockTable × UnlockResponse :=
  match t.key? name with
  | none => (t, { name, error := some (.ofCode .notLocked "not locked") })
  | some k =>
    if k = key then (t.remove name, { unlocked := true, name })
    else (t, { name, error := some (.ofCode .invalidLockKey "invalid lock key") })

/-- What is said to one who waited too long. -/
def waitTimedOut (name : String) : LockResponse :=
  refusal name .lockWaitTimeout "lock wait timeout exceeded"

end LockTable

end DistLock
