import DistLock.Endpoint.Channel
import DistLock.Message.Schema
import DistLock.Text.Percent

/-!
# Calls over HTTP

A call is one HTTP request: the operation is its path, the message is its
body in a frame, and the password goes along. The reply holds a message in a
frame, and a status in a field behind it; a status that is not zero counts
more than a message that can be read, but not more than one that is too long
or no message at all. A server that knows nothing of all this answers with
an HTTP status alone, from which the status of the call is derived.
-/

namespace DistLock.Grpc

open Wire

/-! ## Frames -/

/-- A number in four bytes, the highest first. -/
def fourBytes (n : Nat) : Bytes :=
  [.ofNat (n / Nat.pow 2 24), .ofNat (n / Nat.pow 2 16), .ofNat (n / Nat.pow 2 8), .ofNat n]

/-- A message that is not compressed, with its length in front. -/
def frame (message : Bytes) : Bytes := 0 :: fourBytes message.length ++ message

/-- The message in a frame. -/
def unframe? : Bytes → Option Bytes
  | 0 :: a :: b :: c :: d :: rest =>
    let length := a.toNat * Nat.pow 2 24 + b.toNat * Nat.pow 2 16 + c.toNat * Nat.pow 2 8 + d.toNat
    if rest.length = length then some rest else none
  | _ => none

/-! ## Requests -/

structure HttpRequest where
  method : String := "POST"
  path : String
  query : Option String := none
  contentType : String := "application/grpc"
  te : String := "trailers"
  authorization : List Bytes := []
  body : Bytes
  deriving DecidableEq, Repr

/-- The service that the operations belong to. -/
def serviceName : String := "ldlm.LDLM"

/-- The path of an operation. -/
def pathOf (o : Operation) : String := "/" ++ serviceName ++ "/" ++ o.name

/-- The request for a call through a channel. -/
def requestOf (c : Channel) (r : Request) : HttpRequest :=
  { path := pathOf r.operation
    authorization := c.authorization.toList
    body := frame r.encode }

/-! ## Replies -/

/-- What a server sends back. -/
inductive HttpReply where
  /-- A status at once. -/
  | status (code : Int) (message : String)
  /-- A message, if there is one, and the fields behind it. -/
  | message (content : Option Bytes) (trailers : List (String × String))
  /-- An answer of plain HTTP. -/
  | plain (code : Nat)
  deriving DecidableEq, Repr

/-- The code that a field names: a number from 0 to 16 without
zeros in front. -/
def codeOf (field : String) : StatusCode :=
  match (List.range 17).find? fun n => toString n == field with
  | some n => .ofInt n
  | none => .unknown

/-- The status in the fields behind a message. -/
def statusOf? (trailers : List (String × String)) : Option Status :=
  (trailers.lookup "grpc-status").map fun code =>
    match (trailers.lookup "grpc-message").map fun m =>
        Text.Percent.textOf (Text.Percent.decode (bytesOfText m)) with
    | none => { code := codeOf code }
    | some (.ok message) => { code := codeOf code, message }
    | some (.error f) =>
      { code := .unknown, message := "Error deserializing status message header: " ++ f.message }

/-- A call must have a message in its reply. -/
def missingMessage : Status := { code := .internal, message := "Missing response message." }

/-- What an HTTP status says about a call. -/
def codeOfHttp : Nat → StatusCode
  | 400 => .internal
  | 401 => .unauthenticated
  | 403 => .permissionDenied
  | 404 => .unimplemented
  | 429 | 502 | 503 | 504 => .unavailable
  | _ => .unknown

/-- The status of a call that got an answer of plain HTTP. -/
def statusOfHttp (code : Nat) : Status :=
  if code = 200 then missingMessage
  else
    { code := codeOfHttp code
      message := "grpc-status header missing, mapped from HTTP status code " ++ toString code }

/-- The status of a message that cannot be read. -/
def unreadable (e : DecodeError) : Status := { code := .internal, message := e.message }

/-- The length of the longest message that is received. -/
def receiveLimit : Nat := 4 * 1024 * 1024

/-- The status of a message that is longer. -/
def tooLong (length : Nat) : Status :=
  { code := .outOfRange
    message := "Error, decoded message length too large: found " ++ toString length ++
      " bytes, the limit is: " ++ toString receiveLimit ++ " bytes" }

/-- What a reply says: a response, or the status with which the call ended. -/
def HttpReply.read {ρ : Type} (schema : Schema ρ) : HttpReply → Reply ρ
  | .status code text =>
    match StatusCode.ofInt code with
    | .ok => .failure missingMessage
    | code => .failure { code, message := text }
  | .plain code => .failure (statusOfHttp code)
  | .message content trailers =>
    let failed := (statusOf? trailers).filter (·.code != .ok)
    match content, failed with
    | none, failed => .failure (failed.getD missingMessage)
    | some bytes, failed =>
      -- the length stands in front of the message, so it is looked at first
      if receiveLimit < bytes.length then .failure (tooLong bytes.length)
      else
        match schema.decode bytes, failed with
        | .error e, _ => .failure (unreadable e)
        | .ok _, some s => .failure s
        | .ok m, none => .response m

/-- The answer to a request that a reply is. -/
def answerOf (r : Request) (reply : HttpReply) : Answer :=
  match r with
  | .lock _ | .tryLock _ => .acquired (reply.read LockResponse.schema)
  | .refreshLock _ => .refreshed (reply.read LockResponse.schema)
  | .unlock _ => .unlocked (reply.read UnlockResponse.schema)

/-! ## Peers -/

/-- Who is at the other end of a channel. -/
inductive Peer where
  /-- Nobody: no connection comes about. -/
  | unreachable
  /-- A server with these replies to give. -/
  | serving (replies : List HttpReply)
  deriving DecidableEq, Repr

/-- The status of a call for which there is no connection. -/
def notConnected : Status := { code := .unavailable, disconnected := true }

/-- The same failure as an answer to a request. -/
def failureOf (r : Request) (status : Status) : Answer :=
  match r with
  | .lock _ | .tryLock _ => .acquired (.failure status)
  | .refreshLock _ => .refreshed (.failure status)
  | .unlock _ => .unlocked (.failure status)

/-- What a server says when it has no reply left. -/
def scriptOver : HttpReply := .status 12 "script over"

/-- Makes a call: the answer, what the server saw of it, and the
peer afterwards. -/
def Peer.call (p : Peer) (c : Channel) (r : Request) : Peer × Option HttpRequest × Answer :=
  match p with
  | .unreachable => (p, none, failureOf r notConnected)
  | .serving replies =>
    if !c.isUsable then (p, none, failureOf r notConnected)
    else
      match replies with
      | [] => (p, some (requestOf c r), answerOf r scriptOver)
      | reply :: replies => (.serving replies, some (requestOf c r), answerOf r reply)

end DistLock.Grpc
