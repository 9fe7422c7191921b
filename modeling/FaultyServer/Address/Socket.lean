import FaultyServer.Address.Ip

/-!
# Socket addresses

An IP address with a TCP port, as a listener binds it and a log line shows it.
-/

namespace FaultyServer.Address

/-- An IP address and a TCP port. -/
structure Socket where
  ip : Ip
  port : UInt16
  deriving DecidableEq

/-- The text of an IP address before a colon: an IPv6 address stands in brackets. -/
def Ip.bracketed : Ip → List Char
  | .v4 a => a.chars
  | .v6 a => '[' :: a.chars ++ [']']

/-- The text of a socket address whose port is written as `port`. -/
def Socket.charsWithPort (a : Socket) (port : List Char) : List Char :=
  a.ip.bracketed ++ ':' :: port

/-- The text of a socket address. -/
def Socket.chars (a : Socket) : List Char := a.charsWithPort (Text.decimal a.port.toNat)

instance : ToString Socket := ⟨fun a => String.ofList a.chars⟩

end FaultyServer.Address
