import FaultyServer.Log.Event
import FaultyServer.Reply
import FaultyServer.Settings.Basic
import FaultyServer.Timer

/-!
# Dispatching a request

What becomes of a request is decided at the moment it is dispatched: its path gives the behavior,
the behavior moves the counter, and the new value decides an alternating turn. The result is a
commitment to a reply after a delay. Nothing that happens later changes it.
-/

namespace FaultyServer

/-- The settings that a dispatch depends on. -/
structure Dispatcher where
  steps : Steps
  hang : Duration
  deriving DecidableEq

/-- The dispatcher of a server with these settings. -/
def Settings.dispatcher (s : Settings) : Dispatcher := ⟨s.steps, s.hang⟩

/-- What a dispatched request will get: a reply, at once or after the delay of a hang. -/
structure Commitment where
  reply : Reply
  /-- The duration of the hang, if there is one. -/
  hold : Option Duration
  deriving DecidableEq

/-- How many milliseconds the reply takes. -/
def Commitment.delay (c : Commitment) : Nat :=
  match c.hold with
  | none => 0
  | some d => d.delay

/-- The outcome of dispatching a request: the commitment, the counter, and what is logged. -/
structure Dispatched where
  commitment : Commitment
  counter : Counter
  events : List Event
  deriving DecidableEq

namespace Dispatcher

/-- A reply at once. -/
def reply (r : Reply) : Commitment := ⟨r, none⟩

/-- Success after a hang. -/
def held (d : Dispatcher) : Commitment := ⟨.ok, some d.hang⟩

/-- Carries out a behavior; what it logs comes after the event of the resolved path. -/
def perform (d : Dispatcher) (c : Counter) : Behavior → Dispatched
  | .ok => ⟨reply .ok, c, []⟩
  | .forbidden => ⟨reply (.status .forbidden), c, []⟩
  | .notFound => ⟨reply (.status .notFound), c, []⟩
  | .unavailable => ⟨reply (.status .unavailable), c, []⟩
  | .xml => ⟨reply .xml, c, []⟩
  | .hang => ⟨d.held, c, [.requestHeld d.hang]⟩
  | .resetCounter => ⟨reply .ok, .fresh, [.counterReset]⟩
  | .eachThirdOthersUnavailable =>
    let c := c.advance d.steps.error
    let isSuccess := Counter.isSuccessTurn c.value
    ⟨reply (if isSuccess then .ok else .status .unavailable), c,
      [.counterAdvanced .unavailable c.value isSuccess]⟩
  | .eachThirdOthersHang =>
    let c := c.advance d.steps.hang
    let isSuccess := Counter.isSuccessTurn c.value
    ⟨if isSuccess then reply .ok else d.held, c,
      .counterAdvanced .hang c.value isSuccess ::
        (if isSuccess then [] else [.requestHeld d.hang])⟩

/-- Dispatches a request for a path. -/
def dispatch (d : Dispatcher) (c : Counter) (path : List Char) : Dispatched :=
  let behavior := Route.resolve path
  let done := d.perform c behavior
  { done with events := .resolved (String.ofList path) behavior :: done.events }

end Dispatcher

end FaultyServer
