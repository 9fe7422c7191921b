import FaultyServer.Proofs.Dispatch.Overlap

/-!
# The log of a dispatcher

A dispatch logs all that it ever logs at its start, in one block (`Dispatcher.block`); its end logs
nothing. So the log of a session is made of whole blocks, one for each dispatch, in the order of
their starts (`Session.starts`), however the dispatches overlap and whether or not their clients
give up.

The log also tells the history of the counter. Replaying its resets and its turns, without a look at
the values in it (`Dispatcher.replay`), gives all these values again and the counter in the end.

* `Dispatcher.dispatch_events`: what a dispatch logs;
* `Session.run_events`: what a session logs;
* `Session.honours_starts`: what has become of the dispatches of a session;
* `Session.replay_starts`: the log of a session is replayed;
* `Session.log_history`: the log and what it says about replies and the counter.
-/

namespace FaultyServer

/-- The value of the counter that an event tells. -/
def Event.value? : Event → Option UInt64
  | counterAdvanced _ value _ => some value
  | _ => none

namespace Dispatcher

/-- What carrying out a behavior logs that leaves the counter at a value: a hang and a reset are
told, a turn tells its value and whether it succeeds, and then that it hangs, if it does. -/
def tells (d : Dispatcher) (value : UInt64) : Behavior → List Event
  | .hang => [.requestHeld d.hang]
  | .resetCounter => [.counterReset]
  | .eachThirdOthersUnavailable =>
    [.counterAdvanced .unavailable value (decide (value.toNat % 3 = 0))]
  | .eachThirdOthersHang =>
    .counterAdvanced .hang value (decide (value.toNat % 3 = 0)) ::
      if value.toNat % 3 = 0 then [] else [.requestHeld d.hang]
  | .ok | .forbidden | .notFound | .unavailable | .xml => []

/-- What the dispatch of a path logs that leaves the counter at a value. -/
def block (d : Dispatcher) (path : List Char) (value : UInt64) : List Event :=
  .resolved (String.ofList path) (Route.resolve path) :: d.tells value (Route.resolve path)

/-- Replays the resets and the turns of a log: the values that the turns make, and the counter in
the end. -/
def replay (d : Dispatcher) : Counter → List Event → List UInt64 × Counter
  | c, [] => ([], c)
  | c, event :: rest =>
    match event with
    | .counterReset => replay d .fresh rest
    | .counterAdvanced turn _ _ =>
      let value := c.value + turn.step d.steps
      let (values, last) := replay d ⟨value⟩ rest
      (value :: values, last)
    | _ => replay d c rest

variable (d : Dispatcher) (c : Counter)

theorem perform_events (behavior : Behavior) :
    (d.perform c behavior).events = d.tells (d.perform c behavior).counter.value behavior := by
  cases behavior with
  | eachThirdOthersUnavailable => simp only [perform, tells, Counter.isSuccessTurn_eq]
  | eachThirdOthersHang =>
    simp only [perform, tells, Counter.isSuccessTurn_eq, decide_eq_true_eq]
  | _ => rfl

/-- A dispatch logs its block, with the value at which it leaves the counter. -/
theorem dispatch_events (path : List Char) :
    (d.dispatch c path).events = d.block path (d.dispatch c path).counter.value :=
  congrArg (List.cons _) (d.perform_events c _)

theorem replay_append (events later : List Event) :
    d.replay c (events ++ later) =
      ((d.replay c events).1 ++ (d.replay (d.replay c events).2 later).1,
        (d.replay (d.replay c events).2 later).2) := by
  induction events generalizing c with
  | nil => rfl
  | cons event rest ih => cases event <;> simp [replay, ih]

theorem replay_perform (behavior : Behavior) :
    d.replay c (d.perform c behavior).events =
      ((d.perform c behavior).events.filterMap Event.value?, (d.perform c behavior).counter) := by
  cases behavior with
  | eachThirdOthersHang =>
    simp only [perform]
    split <;> rfl
  | _ => rfl

/-- Replaying what a dispatch logs gives the value in it and the counter that is left. -/
theorem replay_dispatch (path : List Char) :
    d.replay c (d.dispatch c path).events =
      ((d.dispatch c path).events.filterMap Event.value?, (d.dispatch c path).counter) :=
  d.replay_perform c _

end Dispatcher

namespace Dispatch

/-- A dispatch that has been started: its path, the dispatch as it was in flight then, and the value
at which it left the counter. -/
structure Start where
  path : List Char
  flight : Flight
  value : UInt64

/-- What the dispatches that have been started log. -/
def blocks (d : Dispatcher) (starts : List Start) : List Event :=
  starts.flatMap fun e => d.block e.path e.value

theorem blocks_append (d : Dispatcher) (starts later : List Start) :
    blocks d (starts ++ later) = blocks d starts ++ blocks d later := List.flatMap_append

namespace Move

/-- What a move asks a dispatcher for, if it starts a dispatch. -/
def request? : Move → Option (List Char × Option Nat)
  | start path limit => some (path, limit)
  | _ => none

/-- Whether a move touches the counter from outside. -/
def isOutside : Move → Bool
  | advance _ | reset => true
  | _ => false

end Move

namespace Session

variable {s : Session}

/-- The dispatch that a move starts, if it starts one. -/
def startOf? (s : Session) : Move → Option Start
  | .start path limit => some ⟨path, s.launched path limit, (s.start path limit).counter.value⟩
  | _ => none

/-- The dispatches that moves start, in their order. -/
def starts (s : Session) : List Move → List Start
  | [] => []
  | move :: rest => (s.startOf? move).toList ++ starts (s.make move) rest

theorem starts_cons (s : Session) (move : Move) (rest : List Move) :
    s.starts (move :: rest) = (s.startOf? move).toList ++ (s.make move).starts rest := rfl

theorem blocks_start (s : Session) (path : List Char) (limit : Option Nat) :
    blocks s.dispatcher (s.startOf? (.start path limit)).toList =
      (s.dispatcher.dispatch s.counter path).events :=
  (List.append_nil _).trans (s.dispatcher.dispatch_events s.counter path).symm

/-- A move logs the block of the dispatch that it starts, and nothing if it starts none. -/
theorem make_events (s : Session) (move : Move) :
    (s.make move).events = s.events ++ blocks s.dispatcher (s.startOf? move).toList := by
  cases move with
  | start path limit => rw [blocks_start]; rfl
  | pass ms => exact (ended_passWith _ _ s).events.trans (List.append_nil _).symm
  | _ => exact (List.append_nil _).symm

/-- A session logs a block for each dispatch that it starts. -/
theorem run_events (hs : s.Sound) (moves : List Move) :
    (s.run moves).events = s.events ++ blocks s.dispatcher (s.starts moves) := by
  induction moves generalizing s with
  | nil => exact (List.append_nil _).symm
  | cons move rest ih =>
    have hrest := ih (make_sound hs move)
    rw [make_events, make_dispatcher hs, List.append_assoc, ← blocks_append] at hrest
    exact hrest

theorem starts_requests (s : Session) (moves : List Move) :
    ((s.starts moves).map fun e => (e.path, e.flight.limit)) = moves.filterMap Move.request? := by
  induction moves generalizing s with
  | nil => rfl
  | cons move rest ih =>
    rw [starts_cons, List.map_append, ih]
    cases move <;> rfl

/-- The dispatches are numbered in the order of their starts. -/
theorem starts_ids (s : Session) (moves : List Move) :
    List.range s.started ++ (s.starts moves).map (·.flight.id) =
      List.range (s.run moves).started := by
  induction moves generalizing s with
  | nil => exact List.append_nil _
  | cons move rest ih =>
    rw [starts_cons, List.map_append, ← List.append_assoc]
    refine Eq.trans (congrArg (· ++ _) ?_) (ih (s.make move))
    cases move with
    | start path limit => exact List.range_succ.symm
    | pass ms =>
      exact (List.append_nil _).trans (congrArg List.range (ended_passWith _ _ s).started.symm)
    | _ => exact List.append_nil _

/-- Where a dispatch of a session has been started. -/
theorem exists_of_mem_starts {moves : List Move} {e : Start} (he : e ∈ s.starts moves) :
    ∃ before limit after, moves = before ++ .start e.path limit :: after ∧
      e.flight = (s.run before).launched e.path limit ∧
      e.value = ((s.run before).start e.path limit).counter.value := by
  induction moves generalizing s with
  | nil => exact absurd he List.not_mem_nil
  | cons move rest ih =>
    rcases List.mem_append.1 he with hfirst | hrest
    · cases move with
      | start path limit =>
        rw [List.mem_singleton.1 hfirst]
        exact ⟨[], limit, rest, rfl, rfl, rfl⟩
      | _ => exact absurd hfirst List.not_mem_nil
    · obtain ⟨before, limit, after, rfl, hflight, hvalue⟩ := ih hrest
      exact ⟨move :: before, limit, after, rfl, hflight, hvalue⟩

/-- What has become of a dispatch of a session is what it got at its start, and that just once. -/
theorem honours_starts (hs : s.Sound) {moves : List Move} {e : Start} (he : e ∈ s.starts moves) :
    let t := s.run moves
    t.Honours e.flight ∧
      (t.flights.map (·.id) ++ t.landings.map (·.id)).count e.flight.id = 1 := by
  obtain ⟨before, limit, after, rfl, hflight, -⟩ := exists_of_mem_starts he
  have hb : (s.run before).Sound := run_sound hs before
  have hsound := sound_start hb e.path limit
  obtain ⟨hhon, hid⟩ := (honours_launched hb e.path limit).run hsound (Nat.lt_succ_self _) after
  rw [run_append, hflight]
  exact ⟨hhon, (run_sound hsound after).count_id hid⟩

/-- The value at which a turn leaves the counter decides what it gets. -/
theorem commitment_starts (hs : s.Sound) {moves : List Move} {e : Start} (he : e ∈ s.starts moves)
    {turn : Turn} (hturn : Route.resolve e.path = turn.behavior) :
    e.flight.commitment = turn.outcome s.dispatcher e.value := by
  obtain ⟨before, limit, after, -, hflight, hvalue⟩ := exists_of_mem_starts he
  have hd : (s.run before).dispatcher = s.dispatcher := run_dispatcher hs before
  rw [hflight, hvalue, start_turn _ hturn, launched, Dispatcher.dispatch_turn _ _ hturn, hd]

/-- Replaying what a move logs gives the value in it and the counter that the move leaves. -/
theorem replay_make (s : Session) {move : Move} (h : move.isOutside = false) :
    let log := blocks s.dispatcher (s.startOf? move).toList
    s.dispatcher.replay s.counter log = (log.filterMap Event.value?, (s.make move).counter) := by
  cases move with
  | start path limit =>
    rw [blocks_start]
    exact s.dispatcher.replay_dispatch s.counter path
  | pass ms => exact congrArg (Prod.mk _) (ended_passWith _ _ s).counter.symm
  | fire id => rfl
  | abandon id => rfl
  | advance step => cases h
  | reset => cases h

/-- Replaying the log of a session whose counter nobody touches from outside gives the values in it
and the counter in the end. -/
theorem replay_starts (hs : s.Sound) {moves : List Move}
    (h : ∀ move ∈ moves, move.isOutside = false) :
    let log := blocks s.dispatcher (s.starts moves)
    s.dispatcher.replay s.counter log = (log.filterMap Event.value?, (s.run moves).counter) := by
  induction moves generalizing s with
  | nil => rfl
  | cons move rest ih =>
    obtain ⟨hmove, hrest⟩ := List.forall_mem_cons.1 h
    have hlater := ih (make_sound hs move) hrest
    rw [make_dispatcher hs] at hlater
    dsimp only at hlater ⊢
    rw [starts_cons, blocks_append, Dispatcher.replay_append, replay_make s hmove,
      List.filterMap_append, hlater]
    rfl

/-- The log of a session, whatever overlaps in it and whoever gives up. It is made of one block for
each dispatch, in the order of their starts; the end of a dispatch logs nothing. The value that a
turn has logged is the one that has decided what became of it. If nobody touches the counter from
outside, replaying the log from the value at the start gives all values in it and the counter. -/
theorem log_history (d : Dispatcher) (value : UInt64) (moves : List Move) :
    let s := (startingAt d value).run moves
    let starts := (startingAt d value).starts moves
    (starts.map fun e => (e.path, e.flight.limit)) = moves.filterMap Move.request? ∧
    starts.map (·.flight.id) = List.range s.started ∧
    s.events = blocks d starts ∧
    (∀ ms id, (s.pass ms).events = s.events ∧ (s.fire id).events = s.events ∧
      (s.abandon id).events = s.events) ∧
    (∀ e ∈ starts, s.Honours e.flight ∧
      (s.flights.map (·.id) ++ s.landings.map (·.id)).count e.flight.id = 1 ∧
      ∀ turn : Turn, Route.resolve e.path = turn.behavior →
        e.flight.commitment = turn.outcome d e.value) ∧
    ((∀ move ∈ moves, move.isOutside = false) →
      d.replay ⟨value⟩ s.events = (s.events.filterMap Event.value?, s.counter)) := by
  intro s starts
  have hs := sound_startingAt d value
  have hevents : s.events = blocks d starts := run_events hs moves
  refine ⟨starts_requests _ moves, starts_ids (startingAt d value) moves, hevents,
    fun ms id => ⟨(ended_passWith _ _ s).events, rfl, rfl⟩, fun e he => ?_, fun h => ?_⟩
  · obtain ⟨hhon, hcount⟩ := honours_starts hs he
    exact ⟨hhon, hcount, fun turn hturn => commitment_starts hs he hturn⟩
  · rw [hevents]
    exact replay_starts hs h

/-- A turn that hangs, a reset while it is in flight, a client that gives up, and a turn after the
reset. -/
theorem log_history_overlap :
    let d : Dispatcher := ⟨⟨12, 5⟩, Settings.defaultHang⟩
    let hanging := "/eachThirdReturns200OthersHang"
    let refusing := "/eachThirdReturns200Others503"
    let moves : List Move := [.start hanging.toList none, .start "/resetCounter".toList none,
      .abandon 0, .start refusing.toList none, .pass 300000]
    let log : List Event := [.resolved hanging .eachThirdOthersHang, .counterAdvanced .hang 7 false,
      .requestHeld Settings.defaultHang, .resolved "/resetCounter" .resetCounter, .counterReset,
      .resolved refusing .eachThirdOthersUnavailable, .counterAdvanced .unavailable 12 true]
    let s := (startingAt d 2).run moves
    (∀ move ∈ moves, move.isOutside = false) ∧ s.events = log ∧
      d.replay ⟨2⟩ s.events = ([7, 12], s.counter) := by
  intro d hanging refusing moves log s
  have hmoves : ∀ move ∈ moves, move.isOutside = false := by decide
  obtain ⟨_, _, hevents, _, _, hreplay⟩ := log_history d 2 moves
  have hlog : blocks d ((startingAt d 2).starts moves) = log := by decide +kernel
  have hevents' : s.events = log := hevents.trans hlog
  refine ⟨hmoves, hevents', (hreplay hmoves).trans ?_⟩
  rw [hevents']
  rfl

end Session

end Dispatch

end FaultyServer
