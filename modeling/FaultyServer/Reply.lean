/-!
# Replies

What the server says once it answers: success, the XML document, or a bare status. A reply becomes
a response with a content type and a body.
-/

namespace FaultyServer

/-- An HTTP status code: three digits. -/
structure StatusCode where
  code : Nat
  isThreeDigits : 100 ≤ code ∧ code ≤ 999
  deriving DecidableEq

namespace StatusCode

/-- The status code with this number. -/
def of? (n : Nat) : Option StatusCode := if h : 100 ≤ n ∧ n ≤ 999 then some ⟨n, h⟩ else none

/-- The message for a number that is no status code. -/
def invalidMessage : String := "invalid status code"

/-- 200: the request has succeeded. -/
def ok : StatusCode := ⟨200, by decide⟩

/-- 400: the bytes are no request. -/
def badRequest : StatusCode := ⟨400, by decide⟩

/-- 403: the request is refused. -/
def forbidden : StatusCode := ⟨403, by decide⟩

/-- 404: nothing is there. -/
def notFound : StatusCode := ⟨404, by decide⟩

/-- 501: the method is not served. -/
def notImplemented : StatusCode := ⟨501, by decide⟩

/-- 503: the service is down for the moment. -/
def unavailable : StatusCode := ⟨503, by decide⟩

end StatusCode

/-- An answer of the server. -/
inductive Reply
  /-- Success. -/
  | ok
  /-- Success with an XML document. -/
  | xml
  /-- A status without a body. -/
  | status (code : StatusCode)
  deriving DecidableEq

namespace Reply

/-- The content type of everything but the XML document. -/
def textPlain : String := "text/plain"

/-- The content type of the XML document. -/
def applicationXml : String := "application/xml"

/-- The body of a success. -/
def okBody : String := "OK"

/-- The XML document. -/
def xmlBody : String := "<error/>"

/-- The status of a reply. -/
def statusCode : Reply → StatusCode
  | ok | xml => .ok
  | status code => code

/-- The content type of a reply. -/
def contentType : Reply → String
  | xml => applicationXml
  | _ => textPlain

/-- The body of a reply. -/
def body : Reply → String
  | ok => okBody
  | xml => xmlBody
  | status _ => ""

end Reply

end FaultyServer
