import FaultyServer.Address.Socket
import FaultyServer.Duration.Basic
import FaultyServer.Mode
import FaultyServer.Text.Quoted

/-!
# Settings

Everything a server can be told: the environment it runs in, its mode, how much it logs, where it
listens, how long it hangs, and the steps of its counter. The default settings are complete, so a
configuration may leave anything out.

The server only ever listens on the machine itself. `Settings.listenAddress` is the one place where
a host becomes an address, and it has no address for any other host.
-/

namespace FaultyServer

/-- What to log; without a level the default one applies. -/
structure LogSettings where
  level : Option String
  deriving DecidableEq

/-- Under which name the server runs and where it listens. -/
structure ListenSettings where
  name : String
  host : String
  port : UInt16
  deriving DecidableEq

/-- How far each alternating route moves the counter. -/
structure Steps where
  /-- The step of the route that answers 503 between its successes. -/
  error : UInt64
  /-- The step of the route that hangs between its successes. -/
  hang : UInt64
  deriving DecidableEq

/-- The settings of a server. -/
structure Settings where
  environment : String
  mode : Mode
  logs : Option LogSettings
  listen : ListenSettings
  hang : Duration
  steps : Steps
  deriving DecidableEq

/-- The environment in which the log is written for machines. -/
def production : String := "prod"

/-- The usual environment. -/
def development : String := "dev"

/-- The environment of tests. -/
def testing : String := "test"

namespace ListenSettings

/-- A local server on its usual port. -/
def default : ListenSettings := ⟨"hang-webserver", "127.0.0.1", 12345⟩

end ListenSettings

namespace Steps

/-- The usual steps. -/
def default : Steps := ⟨12, 1⟩

end Steps

namespace Settings

/-- The usual delay: five minutes. -/
def defaultHang : Duration := .ofSeconds 300 (by decide)

/-- The settings that hold where a configuration says nothing. -/
def default : Settings :=
  ⟨development, .failureInjection, none, .default, defaultHang, .default⟩

/-- The settings for tests: a short delay, a port of the system's choice, and a detailed log. -/
def forTests : Settings :=
  { default with
    environment := testing
    logs := some ⟨some "debug"⟩
    listen := ⟨"hang-webserver:test", "127.0.0.1", 0⟩
    hang := .ofMillis 300 (by decide) }

/-- Whether the server runs in production. -/
def isProduction (s : Settings) : Bool := s.environment == production

/-- The settings with another port. -/
def withPort (s : Settings) (port : UInt16) : Settings :=
  { s with listen := { s.listen with port := port } }

/-- The settings with another host. -/
def withHost (s : Settings) (host : String) : Settings :=
  { s with listen := { s.listen with host := host } }

/-- The settings with another server name. -/
def withName (s : Settings) (name : String) : Settings :=
  { s with listen := { s.listen with name := name } }

/-- The settings with another mode. -/
def withMode (s : Settings) (mode : Mode) : Settings := { s with mode := mode }

end Settings

/-- Why a host is no address to listen on. -/
inductive HostFault
  /-- The host is no IP address. -/
  | invalid (host : String)
  /-- The address can be reached from other machines. -/
  | notLoopback (ip : Address.Ip)
  deriving DecidableEq

namespace HostFault

/-- The message for a host that is refused. -/
def message : HostFault → String
  | invalid host => "invalid listen host " ++ Text.quoted host ++ ": expected an IP address"
  | notLoopback ip => "listen host " ++ toString ip ++ " is not a loopback address"

end HostFault

/-- The address of a host: the machine's own name, or the text of a loopback address. -/
def Address.Ip.ofHost (host : String) : Except HostFault Address.Ip :=
  if host = "localhost" then .ok .localhost
  else
    match Address.Ip.ofString? host with
    | none => .error (.invalid host)
    | some ip => if ip.isLoopback then .ok ip else .error (.notLoopback ip)

/-- The address to listen on. -/
def Settings.listenAddress (s : Settings) : Except HostFault Address.Socket := do
  let ip ← Address.Ip.ofHost s.listen.host
  pure ⟨ip, s.listen.port⟩

end FaultyServer
