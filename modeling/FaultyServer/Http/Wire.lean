import FaultyServer.Http.Message
import FaultyServer.Text.Pieces

/-!
# Messages on a connection

A connection carries bytes. The head of a request is lines up to an empty one: the request line with
method, target and version, and the header fields. The fields say how long the body is that follows,
and a head whose fields do not agree about it is refused. A response is written with the version of
its request; a body whose end is held back is written in chunks, or up to the end of the connection
where the version knows no chunks.
-/

namespace FaultyServer.Http

/-- The versions of the protocol. -/
inductive Version
  | http10
  | http11
  deriving DecidableEq

/-- The name of a version. -/
def Version.name : Version → String
  | http10 => "HTTP/1.0"
  | http11 => "HTTP/1.1"

/-- The version of a name. -/
def Version.of? (name : String) : Option Version :=
  [http10, http11].find? (·.name == name)

/-- How the body of a request ends. -/
inductive Framing
  /-- After this many bytes. -/
  | length (bytes : Nat)
  /-- With an empty chunk. -/
  | chunked
  deriving DecidableEq

/-- The head of a request. -/
structure Head where
  request : Request
  version : Version
  framing : Framing
  deriving DecidableEq

/-- What the bytes of a connection hold at their front. -/
inductive Incoming
  /-- A head, and what follows it. -/
  | complete (head : Head) (rest : List UInt8)
  /-- Not yet a whole head. -/
  | partialHead
  /-- Something that starts no request. -/
  | malformed
  deriving DecidableEq

/-- The line at the front of bytes, without its end, and what follows. -/
def readLine : List UInt8 → Option (List UInt8 × List UInt8)
  | [] => none
  | 0x0A :: rest => some ([], rest)
  | [0x0D] => none
  | 0x0D :: 0x0A :: rest => some ([], rest)
  | b :: rest => (readLine rest).map fun (line, rest) => (b :: line, rest)

/-- The text of bytes, if they are text. -/
def textOf (bytes : List UInt8) : Option String := String.fromUTF8? (ByteArray.mk bytes.toArray)

/-- The text of bytes that stand for one character each. -/
def latinText (bytes : List UInt8) : String :=
  String.ofList (bytes.map fun b => Char.ofNat b.toNat)

/-- Reads a request line. -/
def readRequestLine (line : List UInt8) : Option (String × String × Version) :=
  match (textOf line).map (Text.split ' ') with
  | some [method, target, version] => (Version.of? version).map fun v => (method, target, v)
  | _ => none

/-- Whether a byte may stand in the value of a header field. -/
def isValueByte (b : UInt8) : Bool := b == 0x09 || (0x20 ≤ b && b != 0x7F)

/-- Reads a header field. -/
def readField (line : List UInt8) : Option (String × String) :=
  let name := latinText (line.takeWhile (· != 0x3A))
  match line.dropWhile (· != 0x3A) with
  | _ :: value =>
    if isHeaderName name && value.all isValueByte then
      some (name.toLower, (latinText value).trimAscii.toString)
    else none
  | [] => none

/-- Reads header fields up to the empty line; `fuel` is at least the number of lines. The result is
`none` for a line that is no field, and `some none` if the empty line has not come yet. -/
def readFields : Nat → List UInt8 → Option (Option (Headers × List UInt8))
  | 0, _ => some none
  | fuel + 1, bytes =>
    match readLine bytes with
    | none => some none
    | some ([], rest) => some (some ([], rest))
    | some (line, rest) =>
      match readField line, readFields fuel rest with
      | some field, some (some (fields, rest)) => some (some (field :: fields, rest))
      | some _, some none => some none
      | _, _ => none

/-- The items of a header value, without the blanks around them, in lower case. -/
def listItems (value : String) : List String :=
  (Text.split ',' value).map fun item => item.trimAscii.toString.toLower

/-- Finds out how a body ends. Before these fields `coding` has told whether the last coding is in
chunks, and `length` how long the body is. A length in front of a coding has to be proper but does
not count, and one behind it is not looked at. -/
def Framing.ofHeaders (version : Version) (coding : Option Bool) (length : Option Nat) :
    Headers → Option Framing
  | [] =>
    match coding with
    | none => some (.length (length.getD 0))
    | some true => some .chunked
    | some false => none
  | (name, value) :: rest =>
    if name = "transfer-encoding" then
      if version = .http10 then none
      else ofHeaders version (some ((listItems value).getLast? == some "chunked")) length rest
    else if name = "content-length" ∧ coding = none then
      match Text.natural? 10 value.toList with
      | some n => if length.all (· == n) then ofHeaders version coding (some n) rest else none
      | none => none
    else ofHeaders version coding length rest

/-- Reads the head of a request. -/
def Incoming.read (bytes : List UInt8) : Incoming :=
  let bytes := bytes.dropWhile fun b => b == 0x0D || b == 0x0A
  match readLine bytes with
  | none => .partialHead
  | some (line, rest) =>
    match readRequestLine line, readFields bytes.length rest with
    | some (method, target, version), some (some (headers, rest)) =>
      match Method.of? method, Target.ofString target,
        Framing.ofHeaders version none none headers with
      | some m, .ok t, some framing => .complete ⟨⟨m, t, headers, ""⟩, version, framing⟩ rest
      | _, _, _ => .malformed
    | some _, some none => .partialHead
    | _, _ => .malformed

/-- The bytes of a request head. -/
def Request.bytes (method target version : String) (headers : Headers) : List UInt8 :=
  let lines := (method ++ " " ++ target ++ " " ++ version) ::
    headers.map fun (name, value) => name ++ ": " ++ value
  (String.join (lines.map (· ++ "\r\n")) ++ "\r\n").toUTF8.toList

/-! ### Responses -/

/-- The usual words for a status. -/
def reason (status : StatusCode) : String :=
  match status.code with
  | 200 => "OK"
  | 400 => "Bad Request"
  | 403 => "Forbidden"
  | 404 => "Not Found"
  | 501 => "Not Implemented"
  | 503 => "Service Unavailable"
  | _ => ""

/-- A response as a client reads it from a connection. -/
structure Received where
  statusLine : String
  headers : Headers
  body : String
  deriving DecidableEq

/-- Writes a response. -/
def Response.write (r : Response) (version : Version) : Received :=
  let code := String.ofList (Text.decimal r.status.code)
  let line := version.name ++ " " ++ code ++ " " ++ reason r.status
  match r.body, version with
  | .whole text, _ => ⟨line, r.headers, text⟩
  | .stalled _, .http10 => ⟨line, r.headers, ""⟩
  | .stalled _, .http11 => ⟨line, r.headers.put "transfer-encoding" "chunked", "0\r\n\r\n"⟩

/-- The response to something that is no request. -/
def malformedResponse : Response :=
  ⟨.badRequest, [("connection", "close"), ("content-length", "0")], .whole ""⟩

/-- The bytes of a response up to its body. -/
def Received.headBytes (r : Received) : List UInt8 :=
  let lines := r.statusLine :: r.headers.map fun (name, value) => name ++ ": " ++ value
  (String.join (lines.map (· ++ "\r\n")) ++ "\r\n").toUTF8.toList

/-- Whether a response ends its connection. -/
def Response.closes (r : Response) : Bool :=
  (r.headers.values "connection").any fun value => (listItems value).contains "close"

/-- Whether a client is ready to send another request on the connection. -/
def Head.keepsAlive (h : Head) : Bool :=
  let wishes := (h.request.headers.values "connection").flatMap listItems
  match h.version with
  | .http11 => !wishes.contains "close"
  | .http10 => wishes.contains "keep-alive"

/-- What follows the body of a request, if it has a length and has come whole. -/
def Head.afterBody? (h : Head) (bytes : List UInt8) : Option (List UInt8) :=
  match h.framing with
  | .length n => if n ≤ bytes.length then some (bytes.drop n) else none
  | .chunked => none

end FaultyServer.Http
