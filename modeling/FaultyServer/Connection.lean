import FaultyServer.Http.Wire
import FaultyServer.Service

/-!
# Connections

A connection holds the bytes that a client has sent and no server has read. The server reads one
head, answers its request, and reads on only when the response is complete. It reads on if neither
the response nor the client ends the connection and the body in between has come whole: `next`
consumes the head and the body, so the bytes become fewer with every request.
-/

namespace FaultyServer

/-- The bytes that have not been read, and whether the server goes on reading. -/
structure Connection where
  unread : List UInt8
  isOpen : Bool
  deriving DecidableEq

/-- The answer to one request of a connection: the exchange, the version of its response, and the
connection afterwards. -/
structure Connection.Answer where
  exchange : Exchange
  version : Http.Version
  connection : Connection
  deriving DecidableEq

namespace Connection

/-- A connection on which bytes have come. -/
def ofBytes (bytes : List UInt8) : Connection := ⟨bytes, true⟩

/-- A connection on which the server does not read any more. -/
def closed : Connection := ⟨[], false⟩

/-- The connection after a response to a head. -/
def after (head : Http.Head) (response : Http.Response) (rest : List UInt8) : Connection :=
  if response.closes || !head.keepsAlive then closed
  else
    match head.afterBody? rest with
    | some rest => ofBytes rest
    | none => closed

/-- Answers the next request. There is nothing to do on a connection that is closed, or before the
whole head has come. Bytes that start no request get a bare refusal. -/
def next (connection : Connection) (service : Service) (c : Counter) : Option Answer :=
  if !connection.isOpen then none
  else
    match Http.Incoming.read connection.unread with
    | .partialHead => none
    | .malformed => some ⟨.immediate Http.malformedResponse c [], .http11, closed⟩
    | .complete head rest =>
      let exchange := service.answer c head.request
      some ⟨exchange, head.version, after head exchange.response rest⟩

end Connection

end FaultyServer
