import FaultyServer.Dispatch.Basic

/-!
# Dispatches over time

Requests to one dispatcher, in any order and any overlap. A session is a clock, the counter and the
dispatches in flight. A dispatch starts at once and ends when its delay is over or, if its client
waits no longer than some limit, when that is over first; at the very limit the reply still arrives.

* `Session.start` and `Session.pass` are the moves that the clock and the clients make;
  `Session.advance` and `Session.reset` move the counter from outside.
* `Session.fire` and `Session.abandon` end a single dispatch: its timer fires while others that are
  due have not fired yet, or its client gives up before any limit.
* `Session.settle` lets time pass until nothing is in flight.
* `Session.inTurn` and `Session.together` run a list of paths one after another and all at once.
-/

namespace FaultyServer.Dispatch

/-- How a dispatch ended. -/
inductive Ending
  | replied (reply : Reply)
  | timedOut
  deriving DecidableEq

/-- A dispatch in flight: its number, its commitment, when it began, and how long its client
waits. -/
structure Flight where
  id : Nat
  commitment : Commitment
  begun : Nat
  limit : Option Nat
  deriving DecidableEq

namespace Flight

/-- Whether the client gives up before the reply. -/
def isAbandoned (f : Flight) : Bool :=
  match f.limit with
  | none => false
  | some limit => decide (limit < f.commitment.delay)

/-- When the dispatch ends. -/
def finish (f : Flight) : Nat :=
  match f.limit with
  | none => f.begun + f.commitment.delay
  | some limit => f.begun + min limit f.commitment.delay

/-- How the dispatch ends. -/
def ending (f : Flight) : Ending :=
  if f.isAbandoned then .timedOut else .replied f.commitment.reply

end Flight

/-- A dispatch that has ended, and when. -/
structure Landing where
  id : Nat
  ending : Ending
  time : Nat
  deriving DecidableEq

/-- The end of a dispatch that nothing cuts short. -/
def Flight.landing (f : Flight) : Landing := ⟨f.id, f.ending, f.finish⟩

/-- The state of a session. -/
structure Session where
  dispatcher : Dispatcher
  now : Nat
  counter : Counter
  /-- How many dispatches have been started. -/
  started : Nat
  flights : List Flight
  /-- The dispatches that have ended, in the order of their ends. -/
  landings : List Landing
  events : List Event

namespace Session

/-- A session in which nothing has happened. -/
def fresh (d : Dispatcher) : Session := ⟨d, 0, .fresh, 0, [], [], []⟩

/-- Starts a dispatch. -/
def start (s : Session) (path : List Char) (limit : Option Nat) : Session :=
  let done := s.dispatcher.dispatch s.counter path
  { s with
    counter := done.counter
    started := s.started + 1
    flights := s.flights ++ [⟨s.started, done.commitment, s.now, limit⟩]
    events := s.events ++ done.events }

/-- Moves the counter from outside. -/
def advance (s : Session) (step : UInt64) : Session :=
  { s with counter := s.counter.advance step }

/-- Resets the counter from outside. -/
def reset (s : Session) : Session := { s with counter := .fresh }

/-- The earliest end of a list of dispatches. -/
def earliest? (flights : List Flight) : Option Nat := (flights.map Flight.finish).min?

/-- Moves the clock to an instant and ends what ends then. -/
def moveTo (s : Session) (time : Nat) : Session :=
  let ended := s.flights.filter (·.finish ≤ time)
  { s with
    now := max s.now time
    flights := s.flights.filter fun f => !decide (f.finish ≤ time)
    landings := s.landings ++ ended.map Flight.landing }

/-- Lets time pass. Ends at different instants are taken in their order; `fuel` bounds the number of
instants by that of the dispatches. -/
def passWith (stop : Nat) : Nat → Session → Session
  | 0, s => s.moveTo stop
  | fuel + 1, s =>
    match earliest? s.flights with
    | none => s.moveTo stop
    | some time => if time ≤ stop then passWith stop fuel (s.moveTo time) else s.moveTo stop

/-- Lets this many milliseconds pass. -/
def pass (s : Session) (ms : Nat) : Session := passWith (s.now + ms) s.flights.length s

/-- Goes from end to end while anything is in flight. -/
def settleWith : Nat → Session → Session
  | 0, s => s
  | fuel + 1, s =>
    match earliest? s.flights with
    | none => s
    | some time => settleWith fuel (s.moveTo time)

/-- Lets time pass until nothing is in flight. -/
def settle (s : Session) : Session := settleWith s.flights.length s

/-- The timer of one dispatch fires. Timers that are due fire in no particular order, so others may
still be in flight whose end has come. -/
def fire (s : Session) (id : Nat) : Session :=
  let ended := s.flights.filter (·.id == id)
  { s with
    now := ended.foldl (fun time f => max time f.finish) s.now
    flights := s.flights.filter fun f => !(f.id == id)
    landings := s.landings ++ ended.map Flight.landing }

/-- The client of one dispatch gives up in the middle of its hang. -/
def abandon (s : Session) (id : Nat) : Session :=
  let gives (f : Flight) : Bool := f.id == id && decide (s.now < f.begun + f.commitment.delay)
  { s with
    flights := s.flights.filter fun f => !gives f
    landings := s.landings ++ (s.flights.filter gives).map fun f => ⟨f.id, .timedOut, s.now⟩ }

/-- Dispatches paths one after another, each when the one before has ended. -/
def inTurn (s : Session) (paths : List (List Char)) (limit : Option Nat) : Session :=
  paths.foldl (fun s path => (s.start path limit).settle) s

/-- Dispatches paths in their order at the same instant, and waits for all of them. -/
def together (s : Session) (paths : List (List Char)) (limit : Option Nat) : Session :=
  (paths.foldl (fun s path => s.start path limit) s).settle

/-- How and when a dispatch ended. -/
def landing? (s : Session) (id : Nat) : Option Landing := s.landings.find? (·.id == id)

end Session

/-- A move of a session. -/
inductive Move
  /-- A client sends a request and waits no longer than a limit. -/
  | start (path : List Char) (limit : Option Nat)
  /-- Milliseconds pass. -/
  | pass (ms : Nat)
  /-- The timer of one dispatch fires. -/
  | fire (id : Nat)
  /-- The client of one dispatch gives up. -/
  | abandon (id : Nat)
  /-- The counter is advanced from outside. -/
  | advance (step : UInt64)
  /-- The counter is reset from outside. -/
  | reset

/-- Makes a move. -/
def Session.make (s : Session) : Move → Session
  | .start path limit => s.start path limit
  | .pass ms => s.pass ms
  | .fire id => s.fire id
  | .abandon id => s.abandon id
  | .advance step => s.advance step
  | .reset => s.reset

/-- Makes moves in their order. -/
def Session.run (s : Session) (moves : List Move) : Session := moves.foldl make s

end FaultyServer.Dispatch
