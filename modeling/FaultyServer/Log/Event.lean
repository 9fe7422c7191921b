import FaultyServer.Address.Socket
import FaultyServer.Counter
import FaultyServer.Duration.Basic
import FaultyServer.Mode
import FaultyServer.Route

/-!
# Log events

What a server writes to its log. An event is data; `Event.toRecord` gives its level, the part of the
program it comes from, its fields and its message, from which the two formats of log lines are made
(`FaultyServer.Log.Line`).
-/

namespace FaultyServer

/-- How important an event is; the most important ones come first. -/
inductive Level
  | error
  | warn
  | info
  | debug
  | trace
  deriving DecidableEq, Repr

namespace Level

/-- The name of a level in a log line. -/
def name : Level → String
  | error => "ERROR"
  | warn => "WARN"
  | info => "INFO"
  | debug => "DEBUG"
  | trace => "TRACE"

/-- How detailed a level is. -/
def detail : Level → Nat
  | error => 1
  | warn => 2
  | info => 3
  | debug => 4
  | trace => 5

end Level

/-- The signals that end the program. -/
inductive Signal
  | interrupt
  | terminate
  deriving DecidableEq, Repr

/-- The name of a signal. -/
def Signal.name : Signal → String
  | interrupt => "SIGINT"
  | terminate => "SIGTERM"

/-- The value of a field of a log record. -/
inductive FieldValue
  /-- A text, which readable lines quote. -/
  | text (value : String)
  /-- The text of some other value. -/
  | shown (value : String)
  | number (value : Nat)
  | flag (value : Bool)
  deriving DecidableEq

/-- A log record. -/
structure Record where
  level : Level
  /-- The part of the program that the record comes from. -/
  target : String
  fields : List (String × FieldValue)
  message : String
  deriving DecidableEq

/-- Whose turn an advance of the counter was. -/
inductive Turn
  /-- A turn of the route that answers 503. -/
  | unavailable
  /-- A turn of the route that hangs. -/
  | hang
  deriving DecidableEq, Repr

/-- An event in the life of a server, a request or a shutdown. -/
inductive Event
  /-- A request's path has been resolved. -/
  | resolved (path : String) (behavior : Behavior)
  /-- A request has reset the counter. -/
  | counterReset
  /-- A request has advanced the counter to a value, which decides whether it succeeds. -/
  | counterAdvanced (turn : Turn) (value : UInt64) (isSuccess : Bool)
  /-- A request starts to hang. -/
  | requestHeld (hang : Duration)
  /-- The body of a response starts to hang. -/
  | bodyStalled (hang : Duration)
  /-- A request has a method that no server answers. -/
  | methodRejected (method : String)
  /-- A server listens at an address. -/
  | serverStarted (name : String) (address : Address.Socket)
  /-- A server no longer listens. -/
  | serverStopped (name : String) (address : Address.Socket)
  /-- An application has started its server. -/
  | appStarted (address : Address.Socket) (mode : Mode)
  /-- An application has stopped its server. -/
  | appStopped
  /-- A signal starts the shutdown. -/
  | signalled (signal : Signal)
  /-- A cancellation starts the shutdown. -/
  | cancelled
  /-- Every task has ended in time. -/
  | shutDown
  /-- Some task has not ended after this many seconds. -/
  | shutdownTimedOut (seconds : Nat)
  /-- The shutdown of the program has failed. -/
  | shutdownFailed (message : String)
  /-- The program ends. -/
  | exited
  deriving DecidableEq

namespace Event

open FieldValue

/-- The target of a part of the program. -/
def target (part : String) : String := "hang_webserver" ++ part

/-- A record of a component. -/
def record (level : Level) (part component event : String) (fields : List (String × FieldValue))
    (message : String) : Record :=
  ⟨level, target part, [("component", text component), ("event", text event)] ++ fields, message⟩

/-- The value of a field with an address, whose port is written as `portText` says. -/
def addressField (portText : UInt16 → List Char) (address : Address.Socket) : FieldValue :=
  shown (String.ofList (address.charsWithPort (portText address.port)))

/-- The record of an event, with ports written as `portText` says. -/
def toRecord (portText : UInt16 → List Char) : Event → Record
  | resolved path behavior =>
    record .debug "::injection::dispatcher" "dispatcher" "resolved"
      [("path", text path), ("behavior", text behavior.logName)] "request resolved"
  | counterReset =>
    record .info "::injection::dispatcher" "dispatcher" "counter_reset" []
      "alternating counter reset"
  | counterAdvanced turn value isSuccess =>
    record .debug "::injection::dispatcher" "dispatcher" "counter_advanced"
      [("counter", number value.toNat), ("success", flag isSuccess)]
      (match turn with
        | .unavailable => "alternating 503 turn"
        | .hang => "alternating hang turn")
  | requestHeld hang =>
    record .debug "::injection::dispatcher" "dispatcher" "hang_started"
      [("hang", shown hang.compact)] "holding request"
  | bodyStalled hang =>
    record .debug "::controller::hang" "controller" "hang_started" [("hang", shown hang.compact)]
      "stalling response body"
  | methodRejected method =>
    record .debug "::controller::controller" "controller" "method_rejected"
      [("method", shown method)] "unsupported method"
  | serverStarted name address =>
    record .info "::http::server::server" "server" "started"
      [("name", text name), ("addr", addressField portText address)] "server started"
  | serverStopped name address =>
    record .info "::http::server::server" "server" "stopped"
      [("name", text name), ("addr", addressField portText address)] "server stopped"
  | appStarted address mode =>
    record .info "::app::app" "app" "started"
      [("addr", addressField portText address), ("mode", shown mode.name)] "application lifecycle"
  | appStopped => record .info "::app::app" "app" "stopped" [] "application lifecycle"
  | signalled signal =>
    record .info "::shutdown" "graceful-shutdown" "os_signal" [("signal", text signal.name)]
      "cancellation started"
  | cancelled =>
    record .info "::shutdown" "graceful-shutdown" "ctx_done" [] "cancellation started"
  | shutDown =>
    record .info "::shutdown" "graceful-shutdown" "shutdown_success" []
      "service was gracefully shut down"
  | shutdownTimedOut seconds =>
    record .warn "::shutdown" "graceful-shutdown" "shutdown_timeout"
      [("timeout_secs", number seconds)] "not all tasks were closed within timeout"
  | shutdownFailed message =>
    ⟨.error, target "", [("component", text "main"), ("scope", text "service"),
      ("event", text "graceful_shutdown_failed"), ("error", shown message)],
      "failed to gracefully shut down service"⟩
  | exited => record .info "" "main" "exited" [] "bye"

end Event

end FaultyServer
