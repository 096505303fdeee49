import DistLock.Message
import DistLock.Wire.Schema

/-!
# Field tables of the messages

The table of each message type. The names of types and fields are the ones
that decoding errors show.
-/

namespace DistLock

open Wire

def RpcError.schema : Schema RpcError where
  name := "RpcError"
  fields :=
    [.int32 1 "code" (·.code) fun m v => { m with code := v },
      .text 2 "message" (·.message) fun m v => { m with message := v }]
  empty := {}

def LockRequest.schema : Schema LockRequest where
  name := "LockRequest"
  fields :=
    [.text 1 "name" (·.name) fun m v => { m with name := v },
      .optionalInt32 2 "wait_timeout_seconds" (·.waitTimeout)
        fun m v => { m with waitTimeout := some v },
      .optionalInt32 3 "lock_timeout_seconds" (·.lease) fun m v => { m with lease := some v },
      .optionalInt32 4 "size" (·.size) fun m v => { m with size := some v }]
  empty := {}

def TryLockRequest.schema : Schema TryLockRequest where
  name := "TryLockRequest"
  fields :=
    [.text 1 "name" (·.name) fun m v => { m with name := v },
      .optionalInt32 2 "lock_timeout_seconds" (·.lease) fun m v => { m with lease := some v },
      .optionalInt32 3 "size" (·.size) fun m v => { m with size := some v }]
  empty := {}

def RefreshLockRequest.schema : Schema RefreshLockRequest where
  name := "RefreshLockRequest"
  fields :=
    [.text 1 "name" (·.name) fun m v => { m with name := v },
      .text 2 "key" (·.key) fun m v => { m with key := v },
      .int32 3 "lock_timeout_seconds" (·.lease) fun m v => { m with lease := v }]
  empty := {}

def UnlockRequest.schema : Schema UnlockRequest where
  name := "UnlockRequest"
  fields :=
    [.text 1 "name" (·.name) fun m v => { m with name := v },
      .text 2 "key" (·.key) fun m v => { m with key := v }]
  empty := {}

def LockResponse.schema : Schema LockResponse where
  name := "LockResponse"
  fields :=
    [.flag 1 "locked" (·.locked) fun m v => { m with locked := v },
      .text 2 "name" (·.name) fun m v => { m with name := v },
      .text 3 "key" (·.key) fun m v => { m with key := v },
      .nested 4 "error" RpcError.schema (·.error) fun m v => { m with error := some v }]
  empty := {}

def UnlockResponse.schema : Schema UnlockResponse where
  name := "UnlockResponse"
  fields :=
    [.flag 1 "unlocked" (·.unlocked) fun m v => { m with unlocked := v },
      .text 2 "name" (·.name) fun m v => { m with name := v },
      .nested 3 "error" RpcError.schema (·.error) fun m v => { m with error := some v }]
  empty := {}

/-- The bytes of a request. -/
def Request.encode : Request → Bytes
  | .lock r => LockRequest.schema.encode r
  | .tryLock r => TryLockRequest.schema.encode r
  | .refreshLock r => RefreshLockRequest.schema.encode r
  | .unlock r => UnlockRequest.schema.encode r

end DistLock
