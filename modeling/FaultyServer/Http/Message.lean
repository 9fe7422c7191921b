import FaultyServer.Duration.Basic
import FaultyServer.Http.Target
import FaultyServer.Http.Token
import FaultyServer.Reply

/-!
# Requests and responses

A request as it reaches a server, and a response before it is written to a connection. The body of a
response is a text, or it is empty and its end is held back.
-/

namespace FaultyServer.Http

/-- Why no request can be made of its parts. -/
inductive RequestFault
  | method
  | target (fault : TargetFault)
  | headerName
  | headerValue
  deriving DecidableEq

/-- The message for a fault. -/
def RequestFault.message : RequestFault → String
  | method => "invalid HTTP method"
  | target fault => fault.message
  | headerName => "invalid HTTP header name"
  | headerValue => "failed to parse header value"

/-- A request. -/
structure Request where
  method : Method
  target : Target
  headers : Headers
  body : String
  deriving DecidableEq

/-- Checks header fields in their order; names are kept in lower case. -/
def Headers.check : Headers → Except RequestFault Headers
  | [] => .ok []
  | (name, value) :: rest =>
    if !isHeaderName name then .error .headerName
    else if !isHeaderValue value then .error .headerValue
    else (((name.toLower, value) : String × String) :: ·) <$> check rest

/-- The request of these parts. Of several faults the first in the order of the parts counts. -/
def Request.make (method target : String) (headers : Headers) (body : String) :
    Except RequestFault Request :=
  match Method.of? method with
  | none => .error .method
  | some m => do
    let t ← (Target.ofString target).mapError RequestFault.target
    let headers ← headers.check
    pure ⟨m, t, headers, body⟩

/-- The body of a response. -/
inductive Body
  /-- A text. -/
  | whole (text : String)
  /-- Nothing, which ends only after a duration. -/
  | stalled (hang : Duration)
  deriving DecidableEq

/-- A response. -/
structure Response where
  status : StatusCode
  headers : Headers
  body : Body
  deriving DecidableEq

namespace Response

/-- A response whose body is a text of this type. -/
def ofText (status : StatusCode) (contentType text : String) : Response :=
  ⟨status, [("content-type", contentType)], .whole text⟩

/-- A response without a body. -/
def bare (status : StatusCode) : Response := ⟨status, [], .whole ""⟩

/-- The response that a reply becomes. -/
def ofReply (r : Reply) : Response := ofText r.statusCode r.contentType r.body

/-- Adds the length of a body that is known. -/
def withLength (r : Response) : Response :=
  match r.body with
  | .whole text =>
    let length := String.ofList (Text.decimal text.utf8ByteSize)
    { r with headers := r.headers.put "content-length" length }
  | .stalled _ => r

end Response

end FaultyServer.Http
