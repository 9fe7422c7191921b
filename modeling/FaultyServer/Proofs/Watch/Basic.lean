import FaultyServer.Proofs.Network.OneRequest

/-!
# Watching a server

What can be seen of one server from an instant on: its counter, whether it listens, and the requests
that have been sent to it since then, with all that their clients get and when (`Watch.View`). It is
watched step by step (`Watch.sights`). Clients have names; one that gives up does so on all of its
requests.

`View.perform` says what a step does to a view, and `Watch.perform` what it does on the machine
(`FaultyServer.Proofs.Watch.View` proves that this is the same).
-/

namespace FaultyServer

namespace Flight

/-- A request apart from the number of its server, with the time counted from an instant on. -/
def since (start : Nat) (f : Flight) : Flight := { f with server := 0, begun := f.begun - start }

/-- A request whose client gives up at an instant, if it still waits then. -/
def givenUp (now : Nat) (f : Flight) : Flight :=
  if !f.isAbandoned && decide (now < f.finish) then
    { f with isAbandoned := true, connection := .closed }
  else f

variable {f : Flight} {start now : Nat}

/-- Nobody gives up twice. -/
theorem givenUp_givenUp : (f.givenUp now).givenUp now = f.givenUp now := by
  by_cases h : (!f.isAbandoned && decide (now < f.finish)) = true
  · have heq : f.givenUp now = { f with isAbandoned := true, connection := .closed } := if_pos h
    rw [heq]
    rfl
  · have heq : f.givenUp now = f := if_neg h
    rw [heq, heq]

theorem givenUp_begun : (f.givenUp now).begun = f.begun := by
  rw [givenUp]
  split <;> rfl

theorem givenUp_since (hbegun : start ≤ f.begun) (hnow : start ≤ now) :
    (f.givenUp now).since start = (f.since start).givenUp (now - start) := by
  have hwaits : now - start < (f.since start).finish ↔ now < f.finish := by
    show now - start < f.begun - start + f.totalDelay ↔ now < f.begun + f.totalDelay
    omega
  rw [givenUp, givenUp, decide_eq_decide.2 hwaits]
  show _ = if (!f.isAbandoned && decide (now < f.finish)) = true then _ else _
  split <;> rfl

end Flight

namespace Network

variable {n : Network} {id : Nat} {s : Server}

theorem abandon_eq (n : Network) (id : Nat) :
    n.abandon id = { n with flights := n.flights.modify id (·.givenUp n.now) } := by
  rw [abandon, isInFlight]
  rw [List.modify_eq_set_getElem?, List.modify_eq_set_getElem?]
  cases hf : n.flights[id]? with
  | none => rfl
  | some f =>
    have hgiven : f.givenUp n.now =
        if !f.isAbandoned && decide (n.now < f.finish) then
          { f with isAbandoned := true, connection := .closed }
        else f := rfl
    have hset : n.flights.set id f = n.flights := by
      obtain ⟨hlt, rfl⟩ := List.getElem?_eq_some_iff.1 hf
      exact List.set_getElem_self hlt
    simp only [Option.map_eq_map, Option.map_some, Option.getD_some, hgiven]
    split
    · rfl
    · rw [hset]

/-- Clients that give up on several requests change these and nothing else. -/
theorem run_abandon (n : Network) (ids : List Nat) :
    (n.run (ids.map .abandon)).1 =
      { n with flights := n.flights.mapIdx fun i f =>
          if i ∈ ids then f.givenUp n.now else f } := by
  induction ids generalizing n with
  | nil =>
    have hflights : n.flights.mapIdx (fun i f => if i ∈ [] then f.givenUp n.now else f) =
        n.flights := List.ext_getElem? fun i => by simp
    exact congrArg (fun flights => { n with flights := flights }) hflights.symm
  | cons id rest ih =>
    have hfirst : (n.make (.abandon id)).1 = n.abandon id := rfl
    rw [List.map_cons, run_cons, hfirst, ih, abandon_eq]
    have hflights : (n.flights.modify id (·.givenUp n.now)).mapIdx
        (fun i f => if i ∈ rest then f.givenUp n.now else f) =
        n.flights.mapIdx fun i f => if i ∈ id :: rest then f.givenUp n.now else f := by
      refine List.ext_getElem? fun i => ?_
      simp only [List.getElem?_mapIdx, List.getElem?_modify, List.mem_cons]
      cases n.flights[i]? with
      | none => rfl
      | some f =>
        -- A request may be named twice, but nobody gives up on it twice.
        by_cases hid : id = i <;> by_cases hrest : i ∈ rest <;>
          simp [hid, hrest, Flight.givenUp_givenUp, eq_comm (a := i)]
    exact congrArg (fun flights => { n with flights := flights }) hflights

end Network

/-- A request that a client has sent to a server, by its number on the machine. -/
structure Sent where
  server : Nat
  client : Nat
  flight : Nat

/-- A machine that is watched: since when, and what its clients have sent since then. -/
structure Watch where
  network : Network
  start : Nat
  sent : List Sent

namespace Watch

open Network (Action Result)

/-- What can happen to a server. -/
inductive Step
  /-- Somebody waits for the server to end by itself. -/
  | wait
  /-- The counter is advanced from outside. -/
  | advance (step : UInt64)
  /-- The counter is reset from outside. -/
  | reset
  /-- A client connects and sends bytes. -/
  | request (client : Nat) (bytes : List UInt8)
  /-- A client gives up on all of its requests to the server. -/
  | abandon (client : Nat)
  | pass (ms : Nat)

/-- How many milliseconds a step takes. -/
def Step.duration : Step → Nat
  | pass ms => ms
  | _ => 0

/-- What can be seen of a server: what it is, for how many milliseconds it has been watched, and
what each client has been sending it since then, with the time counted from there. -/
structure View where
  service : Service
  counter : Counter
  isListening : Bool
  elapsed : Nat
  requests : List (Nat × Flight)
  deriving DecidableEq

/-- What can be seen of one step: what comes of it, what is logged, and the server afterwards. The
number of a request that has been read is not told, as it depends on the other servers. -/
structure Sight where
  result : Result
  events : List Event
  view : Option View
  deriving DecidableEq

/-! ## Views -/

namespace View

/-- What a step does to a server that can be seen. -/
def perform (v : View) : Step → View × Result × List Event
  | .wait => (v, if v.isListening then .waiting else .done, [])
  | .advance step => ({ v with counter := v.counter.advance step }, .done, [])
  | .reset => ({ v with counter := .fresh }, .done, [])
  | .request client bytes =>
    if v.isListening then
      match (Connection.ofBytes bytes).next v.service v.counter with
      | none => (v, .sent none, [])
      | some answer =>
        ({ v with
          counter := answer.exchange.counter
          requests := v.requests ++ [(client, .ofAnswer 0 v.elapsed answer)] },
          .sent (some 0), answer.exchange.events)
    else (v, .connectFailed .refused, [])
  | .abandon client =>
    ({ v with requests := v.requests.map fun (c, f) =>
        (c, if c = client then f.givenUp v.elapsed else f) }, .done, [])
  | .pass ms => ({ v with elapsed := v.elapsed + ms }, .done, [])

/-- What is seen of a step. -/
def see (v : View) (step : Step) : Sight :=
  let (after, result, events) := v.perform step
  ⟨result, events, some after⟩

/-- What is seen of steps in their order. -/
def sights (v : View) : List Step → List Sight
  | [] => []
  | step :: rest => v.see step :: (v.perform step).1.sights rest

/-- The view after steps. -/
def after (v : View) (steps : List Step) : View :=
  steps.foldl (fun v step => (v.perform step).1) v

end View

/-! ## Machines -/

/-- Starts to watch a machine. -/
def of (n : Network) : Watch := ⟨n, n.now, []⟩

/-- Carries out an action. -/
def make (w : Watch) (action : Action) : Watch × Result :=
  ({ w with network := (w.network.make action).1 }, (w.network.make action).2)

/-- The numbers of the requests of a client to a server. -/
def numbers (w : Watch) (id client : Nat) : List Nat :=
  (w.sent.filter fun e => e.server == id && e.client == client).map (·.flight)

/-- Carries out a step on a server. -/
def perform (w : Watch) (id : Nat) : Step → Watch × Result
  | .wait => w.make (.wait id)
  | .advance step => w.make (.advance id step)
  | .reset => w.make (.reset id)
  | .request client bytes =>
    match w.network.servers[id]? with
    | none => (w, .done)
    | some s =>
      let (after, result) := w.make (.request s.address bytes)
      match result with
      | .sent (some number) =>
        ({ after with sent := w.sent ++ [⟨id, client, number⟩] }, .sent (some 0))
      | _ => (after, result)
  | .abandon client =>
    ({ w with network := (w.network.run ((w.numbers id client).map .abandon)).1 }, .done)
  | .pass ms => w.make (.pass ms)

/-- The requests that clients have sent to a server. -/
def requests (w : Watch) (id : Nat) : List (Nat × Flight) :=
  (w.sent.filter (·.server == id)).filterMap fun e =>
    (w.network.flights[e.flight]?).map fun f => (e.client, f.since w.start)

/-- What can be seen of a server. -/
def view? (w : Watch) (id : Nat) : Option View :=
  (w.network.servers[id]?).map fun s =>
    ⟨s.service, s.counter, s.isListening, w.network.now - w.start, w.requests id⟩

/-- What is seen of a step on a server. -/
def see (w : Watch) (id : Nat) (step : Step) : Sight :=
  let (after, result) := w.perform id step
  ⟨result, after.network.events.drop w.network.events.length, after.view? id⟩

/-- What is seen of steps on a server in their order. -/
def sights (w : Watch) (id : Nat) : List Step → List Sight
  | [] => []
  | step :: rest => w.see id step :: (w.perform id step).1.sights id rest

/-- The machine after steps on a server. -/
def after (w : Watch) (id : Nat) (steps : List Step) : Watch :=
  steps.foldl (fun w step => (w.perform id step).1) w

end Watch

end FaultyServer
