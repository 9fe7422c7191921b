import FaultyServer.Connection

/-!
# Servers on one machine

Any number of servers side by side on the loopback interface, each with its own counter, and the
clients that talk to them. A server listens from its start until its token is cancelled; several
servers may share a token. A client connects to an address and sends all its bytes at once.

* What a request gets is fixed when the server reads it: a `Flight` holds the whole response and
  when it comes. Stopping the server, or starting another one in its place, changes nothing about
  it.
* A client may give up on a request, which closes its connection and changes nothing else.
* A connection that is still open when a response is complete is read on at that instant.
* An address with a listening server is taken; all others are free, also while requests of a server
  that used to listen there are still hanging.
* `Network.make` carries out one action and gives its result.

The interface may be down. Then there is no IPv6 address to bind, and nothing can be reached;
servers on IPv4 addresses start and stop all the same.
-/

namespace FaultyServer

open Address (Socket)
open Http (Response Received)

/-- Whether the loopback interface carries connections. -/
inductive Link
  | up
  | down
  deriving DecidableEq

/-- Why an address cannot be bound. -/
inductive BindFault
  /-- Another listener has it. -/
  | inUse
  /-- The machine has no such address. -/
  | unavailable
  deriving DecidableEq

/-- The message for a fault. -/
def BindFault.message : BindFault → String
  | inUse => "Address already in use (os error 98)"
  | unavailable => "Cannot assign requested address (os error 99)"

/-- Why a server does not start. -/
inductive StartFault
  | host (fault : HostFault)
  | bind (address : Socket) (fault : BindFault)
  deriving DecidableEq

/-- The messages for a fault, the most general first, with ports written as `portText` says. -/
def StartFault.messages (portText : UInt16 → List Char) : StartFault → List String
  | host fault => [fault.message]
  | bind address fault =>
    ["failed to bind TCP listener on " ++
      String.ofList (address.charsWithPort (portText address.port)), fault.message]

/-- Why a client cannot connect. -/
inductive ConnectFault
  /-- No connection reaches the address. -/
  | unreachable
  /-- Nobody listens there. -/
  | refused
  deriving DecidableEq

/-- A server that has been started. -/
structure Server where
  name : String
  service : Service
  /-- The mode of the application that the server belongs to, if it belongs to one. -/
  mode : Option Mode
  address : Socket
  token : Nat
  counter : Counter
  isListening : Bool

/-- A request that has been read: by which server, the response and its version, when it was read,
how many milliseconds the head and the whole of the response take, the connection to be read on
when the response is complete, and whether the client has given up before. -/
structure Flight where
  server : Nat
  response : Response
  version : Http.Version
  begun : Nat
  headDelay : Nat
  totalDelay : Nat
  connection : Connection
  isAbandoned : Bool
  deriving DecidableEq

namespace Flight

/-- The request to which a server gives an answer at an instant. -/
def ofAnswer (server now : Nat) (answer : Connection.Answer) : Flight :=
  ⟨server, answer.exchange.response, answer.version, now, answer.exchange.headDelay,
    answer.exchange.totalDelay, answer.connection, false⟩

/-- When the response is complete. -/
def finish (f : Flight) : Nat := f.begun + f.totalDelay

/-- The response as the client reads it. -/
def received (f : Flight) : Received := f.response.write f.version

end Flight

/-- The machine: its clock, its servers by their numbers, and the requests that have been read, by
theirs. -/
structure Network where
  link : Link
  /-- The addresses that other programs listen on. -/
  taken : List Socket
  now : Nat
  servers : List Server
  /-- The tokens that have been cancelled. -/
  cancelled : List Nat
  flights : List Flight
  events : List Event

namespace Network

/-- A machine without servers. -/
def fresh (link : Link) (taken : List Socket) : Network := ⟨link, taken, 0, [], [], [], []⟩

/-- Whether a token has been cancelled. -/
def isCancelled (n : Network) (token : Nat) : Bool := n.cancelled.contains token

/-- A token that no server has and that has not been cancelled. -/
def freshToken (n : Network) : Nat :=
  ((n.servers.map (·.token) ++ n.cancelled).map (· + 1)).foldl max 0

/-- Whether somebody listens on an address. -/
def isTaken (n : Network) (address : Socket) : Bool :=
  n.taken.contains address || n.servers.any fun s => s.isListening && s.address == address

/-- The listening server of an address. -/
def listener? (n : Network) (address : Socket) : Option Nat :=
  n.servers.findIdx? fun s => s.isListening && s.address == address

/-! ### Starting and stopping -/

/-- The ports that the system chooses from. -/
def ephemeralPorts : List UInt16 := (List.range' 32768 28232).map UInt16.ofNat

/-- A port that no server has had and nobody else listens on. -/
def freePort? (n : Network) : Option UInt16 :=
  ephemeralPorts.find? fun p =>
    !(n.servers.any (·.address.port == p) || n.taken.any (·.port == p))

/-- The address that binding another one gives: the same, or for port zero one with a free port. -/
def bind (n : Network) (address : Socket) : Except BindFault Socket :=
  match address.ip, n.link with
  | .v6 _, .down => .error .unavailable
  | _, _ =>
    if address.port = 0 then
      match n.freePort? with
      | some port => .ok { address with port := port }
      | none => .error .inUse
    else if n.isTaken address then .error .inUse
    else .ok address

/-- Adds events to the log. -/
def log (n : Network) (events : List Event) : Network := { n with events := n.events ++ events }

/-- Adds a server that listens unless its token has been cancelled. -/
def listen (n : Network) (name : String) (service : Service) (mode : Option Mode)
    (address : Socket) (token : Nat) : Network :=
  let isListening := !n.isCancelled token
  let server : Server := ⟨name, service, mode, address, token, .fresh, isListening⟩
  let n := { n with servers := n.servers ++ [server] }
  n.log (.serverStarted name address :: if isListening then [] else [.serverStopped name address])

/-- Starts the server of an application. -/
def start (n : Network) (settings : Settings) (token : Nat) : Except StartFault Network := do
  let address ← (settings.listenAddress).mapError StartFault.host
  let bound ← (n.bind address).mapError (StartFault.bind address)
  let n := n.log [.appStarted bound settings.mode]
  pure (n.listen settings.listen.name (.ofSettings settings) (some settings.mode) bound token)

/-- Starts a server without an application. -/
def startBare (n : Network) (name : String) (service : Service) (address : Socket) (token : Nat) :
    Except StartFault Network := do
  let bound ← (n.bind address).mapError (StartFault.bind address)
  pure (n.listen name service none bound token)

/-- Cancels a token: its servers no longer listen. -/
def cancel (n : Network) (token : Nat) : Network :=
  if n.isCancelled token then n
  else
    let ending := n.servers.filter fun s => s.isListening && s.token == token
    let servers := n.servers.map fun s =>
      if s.token == token then { s with isListening := false } else s
    { n with servers := servers, cancelled := token :: n.cancelled }.log
      (ending.map fun (s : Server) => Event.serverStopped s.name s.address)

/-- Stops a server: cancels its token and waits for it, which takes no time. -/
def stop (n : Network) (id : Nat) : Network :=
  match n.servers[id]? with
  | none => n
  | some s =>
    let n := n.cancel s.token
    if s.mode.isSome then n.log [.appStopped] else n

/-! ### Requests -/

/-- The server that accepts a connection to an address. -/
def connect (n : Network) (address : Socket) : Except ConnectFault Nat :=
  match n.link with
  | .down => .error .unreachable
  | .up =>
    match n.listener? address with
    | some id => .ok id
    | none => .error .refused

/-- Changes the counter of a server. -/
def setCounter (n : Network) (id : Nat) (counter : Counter) : Network :=
  { n with servers := n.servers.modify id fun s => { s with counter := counter } }

/-- Adds a request that has arrived. -/
def addFlight (n : Network) (flight : Flight) : Network :=
  { n with flights := n.flights ++ [flight] }

/-- A server reads a connection up to the end of one request, and answers it. -/
def read (n : Network) (id : Nat) (connection : Connection) : Network :=
  match n.servers[id]? with
  | none => n
  | some s =>
    match connection.next s.service s.counter with
    | none => n
    | some answer =>
      ((n.setCounter id answer.exchange.counter).log answer.exchange.events).addFlight
        (.ofAnswer id n.now answer)

/-- A client connects to an address and sends its bytes. -/
def request (n : Network) (address : Socket) (bytes : List UInt8) :
    Except ConnectFault Network := do
  let id ← n.connect address
  pure (n.read id (.ofBytes bytes))

/-- The response of two that is complete first, or the one that has been found before. -/
def sooner (first : Option (Nat × Flight)) (next : Flight × Nat) : Option (Nat × Flight) :=
  match first with
  | some (_, g) => if next.1.finish < g.finish then some (next.2, next.1) else first
  | none => some (next.2, next.1)

/-- The first response to be complete by an instant whose connection is still open. -/
def nextOpen? (n : Network) (stop : Nat) : Option (Nat × Flight) :=
  (n.flights.zipIdx.filter fun (f, _) => f.connection.isOpen && f.finish ≤ stop).foldl sooner none

/-- Moves the clock to the instant at which a response is complete, and reads on on its
connection. -/
def readOn (n : Network) (id : Nat) (f : Flight) : Network :=
  let flights := n.flights.modify id fun f => { f with connection := .closed }
  { n with now := max n.now f.finish, flights := flights }.read f.server f.connection

/-- Moves the clock to an instant, and reads open connections on the way; `fuel` bounds the number
of requests on them. -/
def passWith (stop : Nat) : Nat → Network → Network
  | 0, n => { n with now := max n.now stop }
  | fuel + 1, n =>
    match n.nextOpen? stop with
    | none => { n with now := max n.now stop }
    | some (id, f) => passWith stop fuel (n.readOn id f)

/-- Lets milliseconds pass. Every request takes at least one byte of its connection. -/
def pass (n : Network) (ms : Nat) : Network :=
  let unread := n.flights.foldl (fun sum f => sum + f.connection.unread.length + 1) 0
  n.passWith (n.now + ms) unread

/-- Whether the client of a request that has been read still waits for its complete response. -/
def isInFlight (n : Network) (id : Nat) : Bool :=
  match n.flights[id]? with
  | some f => !f.isAbandoned && decide (n.now < f.finish)
  | none => false

/-- The client of a request gives up and closes its connection, if it still waits. -/
def abandon (n : Network) (id : Nat) : Network :=
  if n.isInFlight id then
    { n with flights := n.flights.modify id fun f =>
        { f with isAbandoned := true, connection := .closed } }
  else n

/-! ### Actions -/

/-- What can happen on the machine. -/
inductive Action
  /-- An application starts its server, with a token of its own unless one is given. -/
  | start (settings : Settings) (token : Option Nat)
  | stop (server : Nat)
  /-- Somebody waits for a server to end by itself. -/
  | wait (server : Nat)
  | cancel (token : Nat)
  /-- A client connects and sends bytes. -/
  | request (address : Socket) (bytes : List UInt8)
  /-- The client of a request gives up. -/
  | abandon (flight : Nat)
  /-- The counter of a server is advanced from outside. -/
  | advance (server : Nat) (step : UInt64)
  /-- The counter of a server is reset from outside. -/
  | reset (server : Nat)
  | pass (ms : Nat)

/-- What comes of an action. -/
inductive Result
  /-- A server has started, with this number. -/
  | started (server : Nat)
  | startFailed (fault : StartFault)
  /-- A request has been sent, with this number if the server has read it. -/
  | sent (flight : Option Nat)
  | connectFailed (fault : ConnectFault)
  /-- The server is still alive. -/
  | waiting
  | done
  deriving DecidableEq

/-- Carries out an action. -/
def make (n : Network) : Action → Network × Result
  | .start settings token =>
    match n.start settings (token.getD n.freshToken) with
    | .ok after => (after, .started n.servers.length)
    | .error fault => (n, .startFailed fault)
  | .stop id => (n.stop id, .done)
  | .wait id => (n, if (n.servers[id]?).any (·.isListening) then .waiting else .done)
  | .cancel token => (n.cancel token, .done)
  | .request address bytes =>
    match n.request address bytes with
    | .ok after =>
      let isAnswered := n.flights.length < after.flights.length
      (after, .sent (if isAnswered then some n.flights.length else none))
    | .error fault => (n, .connectFailed fault)
  | .abandon id => (n.abandon id, .done)
  | .advance id step =>
    ({ n with servers := n.servers.modify id fun s =>
        { s with counter := s.counter.advance step } }, .done)
  | .reset id => (n.setCounter id .fresh, .done)
  | .pass ms => (n.pass ms, .done)

/-- Carries out actions in their order, and gives their results. -/
def run (n : Network) : List Action → Network × List Result
  | [] => (n, [])
  | action :: rest =>
    let (n, result) := n.make action
    let (n, results) := run n rest
    (n, result :: results)

end Network

end FaultyServer
