import FaultyServer.Proofs.Dispatch.Turn
import Mathlib.Data.List.DropRight
import Mathlib.Data.List.Nodup
import Mathlib.Data.List.Perm.Basic
import Mathlib.Logic.Relation

/-!
# The counter and the history of a session

Dispatches start, hang, are abandoned and reset the counter in any order. The counter only depends
on the order in which they *start*: a dispatch touches it once, at its start, and its end does not
touch it (`Ends`). So the counter is what the moves since the last reset add up to, modulo `2 ^ 64`
(`Move.tally`, `run_counter`).

What becomes of a single dispatch (`Honours`) is fixed at its start, too: it is in flight with the
commitment it got, or it has ended as that commitment says, or its client has given up in the middle
of its hang. For a turn, the value that it has observed decides the commitment
(`counter_history`).
-/

namespace FaultyServer.Dispatch

open Relation (ReflTransGen)

/-! ## Moves and the counter -/

namespace Move

/-- Whether a move sets the counter back to zero. -/
def isReset : Move → Bool
  | start path _ => Route.resolve path == .resetCounter
  | reset => true
  | _ => false

/-- How far a move advances the counter. -/
def increment (steps : Steps) : Move → Nat
  | start path _ =>
    match (Route.resolve path).turn? with
    | some turn => (turn.step steps).toNat
    | none => 0
  | advance step => step.toNat
  | _ => 0

/-- What moves add up to: the increments since the last reset or, without a reset, all of them and
the value at the start. -/
def tally (steps : Steps) (value : Nat) (moves : List Move) : Nat :=
  (if moves.any isReset then 0 else value) +
    ((moves.rtakeWhile (!·.isReset)).map (increment steps)).sum

theorem tally_concat (steps : Steps) (value : Nat) (moves : List Move) (move : Move) :
    tally steps value (moves ++ [move]) =
      if move.isReset then 0 else tally steps value moves + move.increment steps := by
  cases hm : move.isReset with
  | true => simp [tally, hm]
  | false => simp [tally, hm, Nat.add_assoc]

end Move

/-- An end that a dispatch may have: its reply after its delay, or, before that, that its client
gives up. -/
def Flight.Admits (f : Flight) (l : Landing) : Prop :=
  l.id = f.id ∧
    (l.ending = .replied f.commitment.reply ∧ l.time = f.begun + f.commitment.delay ∨
      l.ending = .timedOut ∧ f.begun ≤ l.time ∧ l.time < f.begun + f.commitment.delay)

theorem Flight.admits_landing (f : Flight) : f.Admits f.landing := by
  refine ⟨rfl, ?_⟩
  cases hl : f.limit with
  | none => exact .inl (by simp [landing, ending, isAbandoned, finish, hl])
  | some limit =>
    by_cases hd : limit < f.commitment.delay
    · -- The client gives up first.
      have hmin : min limit f.commitment.delay = limit := Nat.min_eq_left hd.le
      exact .inr (by simp [landing, ending, isAbandoned, finish, hl, hd, hmin])
    · -- The reply is in time, be it at the very limit.
      have hmin : min limit f.commitment.delay = f.commitment.delay :=
        Nat.min_eq_right (Nat.le_of_not_lt hd)
      exact .inl (by simp [landing, ending, isAbandoned, finish, hl, hd, hmin])

namespace Session

variable {s t : Session} {f : Flight}

/-- A session whose counter starts with this value. -/
def startingAt (d : Dispatcher) (value : UInt64) : Session := { fresh d with counter := ⟨value⟩ }

theorem run_concat (s : Session) (moves : List Move) (move : Move) :
    s.run (moves ++ [move]) = (s.run moves).make move := by
  simp only [run, List.foldl_append, List.foldl_cons, List.foldl_nil]

theorem run_append (s : Session) (moves later : List Move) :
    s.run (moves ++ later) = (s.run moves).run later := List.foldl_append

/-- What every move keeps, a run keeps. -/
theorem run_induct {P : Session → Prop} (hP : ∀ s move, P s → P (s.make move)) (moves : List Move)
    (h : P s) : P (s.run moves) := by
  induction moves generalizing s with
  | nil => exact h
  | cons move moves ih => exact ih (hP s move h)

/-! ## Ends of dispatches -/

/-- Some of the dispatches in flight end, and nothing else happens: `p` says which, and `landing`
how. -/
structure Ends (s t : Session) (p : Flight → Bool) (landing : Flight → Landing) : Prop where
  dispatcher : t.dispatcher = s.dispatcher
  now : s.now ≤ t.now
  counter : t.counter = s.counter
  started : t.started = s.started
  events : t.events = s.events
  flights : t.flights = s.flights.filter fun f => !p f
  landings : t.landings = s.landings ++ (s.flights.filter p).map landing
  admits : ∀ f ∈ s.flights, p f → f.Admits (landing f)

/-- Dispatches end, some after the other. -/
def Ended : Session → Session → Prop := ReflTransGen fun s t => ∃ p landing, Ends s t p landing

theorem ends_moveTo (s : Session) (time : Nat) :
    Ends s (s.moveTo time) (fun f => decide (f.finish ≤ time)) Flight.landing :=
  ⟨rfl, Nat.le_max_left _ _, rfl, rfl, rfl, rfl, rfl, fun f _ _ => f.admits_landing⟩

theorem le_foldl_max (flights : List Flight) (now : Nat) :
    now ≤ flights.foldl (fun time f => max time f.finish) now := by
  induction flights generalizing now with
  | nil => exact le_rfl
  | cons f flights ih => exact (Nat.le_max_left _ _).trans (ih _)

theorem ends_fire (s : Session) (id : Nat) : Ends s (s.fire id) (·.id == id) Flight.landing :=
  ⟨rfl, le_foldl_max _ _, rfl, rfl, rfl, rfl, rfl, fun f _ _ => f.admits_landing⟩

/-- A client that gives up does so after the start of its dispatch and before its end. -/
theorem ends_abandon (h : ∀ f ∈ s.flights, f.begun ≤ s.now) (id : Nat) :
    Ends s (s.abandon id) (fun f => f.id == id && decide (s.now < f.begun + f.commitment.delay))
      (fun f => ⟨f.id, .timedOut, s.now⟩) := by
  refine ⟨rfl, le_rfl, rfl, rfl, rfl, rfl, rfl, fun f hf hp => ⟨rfl, .inr ⟨rfl, h f hf, ?_⟩⟩⟩
  simp only [Bool.and_eq_true, decide_eq_true_eq] at hp
  exact hp.2

theorem ended_moveTo (s : Session) (time : Nat) : Ended s (s.moveTo time) :=
  .single ⟨_, _, ends_moveTo s time⟩

theorem ended_passWith (stop fuel : Nat) (s : Session) : Ended s (s.passWith stop fuel) := by
  induction fuel generalizing s with
  | zero => exact ended_moveTo s stop
  | succ fuel ih =>
    rw [passWith]
    split
    · exact ended_moveTo s stop
    · split
      · exact (ended_moveTo s _).trans (ih _)
      · exact ended_moveTo s stop

/-- What the end of dispatches keeps, their ends one after the other keep. -/
theorem Ended.induct {P : Session → Prop}
    (hP : ∀ {s t p landing}, Ends s t p landing → P s → P t) (h : Ended s t) (hs : P s) : P t := by
  induction h with
  | refl => exact hs
  | tail _ hst ih =>
    obtain ⟨_, _, hst⟩ := hst
    exact hP hst ih

/-- The end of a dispatch never touches the counter. -/
theorem Ended.counter (h : Ended s t) : t.counter = s.counter :=
  h.induct (P := fun t => t.counter = s.counter) (fun hst hs => hst.counter.trans hs) rfl

theorem Ended.dispatcher (h : Ended s t) : t.dispatcher = s.dispatcher :=
  h.induct (P := fun t => t.dispatcher = s.dispatcher) (fun hst hs => hst.dispatcher.trans hs) rfl

theorem Ended.started (h : Ended s t) : t.started = s.started :=
  h.induct (P := fun t => t.started = s.started) (fun hst hs => hst.started.trans hs) rfl

/-! ## What has become of a dispatch -/

/-- Every dispatch that has started is in flight or has ended, and that just once; what is in flight
has begun by now. -/
structure Sound (s : Session) : Prop where
  ids : (s.flights.map (·.id) ++ s.landings.map (·.id)).Perm (List.range s.started)
  begun_le : ∀ f ∈ s.flights, f.begun ≤ s.now

theorem sound_startingAt (d : Dispatcher) (value : UInt64) : Sound (startingAt d value) :=
  ⟨List.Perm.refl _, fun _ h => absurd h List.not_mem_nil⟩

theorem Sound.id_lt (hs : Sound s) (hf : f ∈ s.flights) : f.id < s.started :=
  List.mem_range.1 (hs.ids.subset (List.mem_append_left _ (List.mem_map_of_mem hf)))

theorem Sound.landing_id_lt (hs : Sound s) {l : Landing} (hl : l ∈ s.landings) :
    l.id < s.started :=
  List.mem_range.1 (hs.ids.subset (List.mem_append_right _ (List.mem_map_of_mem hl)))

/-- A dispatch that has started is in flight or has ended, and not both. -/
theorem Sound.count_id (hs : Sound s) {id : Nat} (hid : id < s.started) :
    (s.flights.map (·.id) ++ s.landings.map (·.id)).count id = 1 := by
  rw [hs.ids.count_eq]
  exact List.count_eq_one_of_mem List.nodup_range (List.mem_range.2 hid)

/-- Nothing has become of a dispatch but what it got when it started: it is in flight, or it has
ended in a way that it admits. -/
structure Honours (s : Session) (f : Flight) : Prop where
  flight : ∀ g ∈ s.flights, g.id = f.id → g = f
  landing : ∀ l ∈ s.landings, l.id = f.id → f.Admits l

theorem Ends.sound {p landing} (h : Ends s t p landing) (hs : Sound s) : Sound t := by
  refine ⟨?_, fun f hf => ?_⟩
  · have hid : ((s.flights.filter p).map landing).map (·.id) = (s.flights.filter p).map (·.id) := by
      rw [List.map_map]
      refine List.map_congr_left fun f hf => ?_
      exact (h.admits f (List.mem_of_mem_filter hf) (List.of_mem_filter hf)).1
    rw [h.started, h.flights, h.landings, List.map_append, hid]
    refine List.Perm.trans ?_ hs.ids
    -- Those that end change places with the landings before them.
    refine (List.perm_append_comm.append_left _).trans ?_
    rw [← List.append_assoc, ← List.map_append]
    refine List.Perm.append_right _ (List.Perm.map _ ?_)
    exact List.perm_append_comm.trans (List.filter_append_perm p s.flights)
  · rw [h.flights] at hf
    exact (hs.begun_le f (List.mem_of_mem_filter hf)).trans h.now

theorem Ends.honours {p landing} (h : Ends s t p landing) (hf : Honours s f) : Honours t f := by
  refine ⟨fun g hg => ?_, fun l hl hid => ?_⟩
  · rw [h.flights] at hg
    exact hf.flight g (List.mem_of_mem_filter hg)
  · rw [h.landings, List.mem_append, List.mem_map] at hl
    rcases hl with hl | ⟨g, hg, rfl⟩
    · exact hf.landing l hl hid
    · -- What has landed by this number was in flight by it, so it is the dispatch itself.
      have hadm := h.admits g (List.mem_of_mem_filter hg) (List.of_mem_filter hg)
      have hgf : g = f := hf.flight g (List.mem_of_mem_filter hg) (hadm.1.symm.trans hid)
      exact hgf ▸ hadm

/-- The dispatch that a start puts in flight. -/
def launched (s : Session) (path : List Char) (limit : Option Nat) : Flight :=
  ⟨s.started, (s.dispatcher.dispatch s.counter path).commitment, s.now, limit⟩

theorem sound_start (hs : Sound s) (path : List Char) (limit : Option Nat) :
    Sound (s.start path limit) := by
  refine ⟨?_, fun f hf => ?_⟩
  · -- The new number, which comes before the landings, is the last one.
    simp only [start, List.map_append, List.map_cons, List.map_nil, List.range_succ]
    rw [List.append_assoc]
    refine (List.perm_append_comm.append_left _).trans ?_
    rw [← List.append_assoc]
    exact hs.ids.append_right _
  · rcases List.mem_append.1 hf with hf | hf
    · exact hs.begun_le f hf
    · rw [List.mem_singleton.1 hf]
      exact le_rfl

theorem honours_launched (hs : Sound s) (path : List Char) (limit : Option Nat) :
    Honours (s.start path limit) (s.launched path limit) := by
  refine ⟨fun g hg hid => ?_, fun l hl hid => ?_⟩
  · rcases List.mem_append.1 hg with hg | hg
    · exact absurd hid (hs.id_lt hg).ne
    · exact List.mem_singleton.1 hg
  · -- Its number is new, so nothing has landed by it.
    exact absurd hid (hs.landing_id_lt hl).ne

theorem Honours.start (hf : Honours s f) (hid : f.id < s.started) (path : List Char)
    (limit : Option Nat) : Honours (s.start path limit) f := by
  refine ⟨fun g hg hg' => ?_, hf.landing⟩
  rcases List.mem_append.1 hg with hg | hg
  · exact hf.flight g hg hg'
  · rw [List.mem_singleton.1 hg] at hg'
    exact absurd hg' hid.ne'

/-! ## What a move does -/

/-- A move that does not start a dispatch only ends dispatches or only touches the counter. -/
theorem make_cases (hs : Sound s) (move : Move) :
    (∃ path limit, move = .start path limit) ∨
      (Ended s (s.make move) ∧ move.isReset = false ∧ ∀ steps, move.increment steps = 0) ∨
        (∃ step, move = .advance step) ∨ move = .reset := by
  cases move with
  | start path limit => exact .inl ⟨path, limit, rfl⟩
  | pass ms => exact .inr (.inl ⟨ended_passWith _ _ _, rfl, fun _ => rfl⟩)
  | fire id => exact .inr (.inl ⟨.single ⟨_, _, ends_fire s id⟩, rfl, fun _ => rfl⟩)
  | abandon id =>
    exact .inr (.inl ⟨.single ⟨_, _, ends_abandon hs.begun_le id⟩, rfl, fun _ => rfl⟩)
  | advance step => exact .inr (.inr (.inl ⟨step, rfl⟩))
  | reset => exact .inr (.inr (.inr rfl))

theorem make_sound (hs : Sound s) (move : Move) : Sound (s.make move) := by
  obtain ⟨path, limit, rfl⟩ | ⟨he, _⟩ | ⟨step, rfl⟩ | rfl := make_cases hs move
  · exact sound_start hs path limit
  · exact he.induct Ends.sound hs
  · exact ⟨hs.ids, hs.begun_le⟩
  · exact ⟨hs.ids, hs.begun_le⟩

theorem started_le_make (hs : Sound s) (move : Move) : s.started ≤ (s.make move).started := by
  obtain ⟨path, limit, rfl⟩ | ⟨he, _⟩ | ⟨step, rfl⟩ | rfl := make_cases hs move
  · exact Nat.le_succ _
  · exact he.started.ge
  · exact le_rfl
  · exact le_rfl

theorem make_dispatcher (hs : Sound s) (move : Move) : (s.make move).dispatcher = s.dispatcher := by
  obtain ⟨path, limit, rfl⟩ | ⟨he, _⟩ | ⟨step, rfl⟩ | rfl := make_cases hs move
  · rfl
  · exact he.dispatcher
  · rfl
  · rfl

theorem Honours.make (hf : Honours s f) (hs : Sound s) (hid : f.id < s.started) (move : Move) :
    Honours (s.make move) f := by
  obtain ⟨path, limit, rfl⟩ | ⟨he, _⟩ | ⟨step, rfl⟩ | rfl := make_cases hs move
  · exact hf.start hid path limit
  · exact he.induct Ends.honours hf
  · exact ⟨hf.flight, hf.landing⟩
  · exact ⟨hf.flight, hf.landing⟩

/-- A move sets the counter back, or adds its increment to it. -/
theorem make_counter (hs : Sound s) (move : Move) :
    (s.make move).counter.value.toNat =
      if move.isReset then 0
      else (s.counter.value.toNat + move.increment s.dispatcher.steps) % 2 ^ 64 := by
  have hlt : s.counter.value.toNat % 2 ^ 64 = s.counter.value.toNat :=
    Nat.mod_eq_of_lt s.counter.value.toNat_lt
  obtain ⟨path, limit, rfl⟩ | ⟨he, hr, hi⟩ | ⟨step, rfl⟩ | rfl := make_cases hs move
  · -- A dispatch resets the counter, takes a turn, or leaves the counter alone.
    by_cases hr : Route.resolve path = .resetCounter
    · have hc := s.dispatcher.dispatch_reset s.counter hr
      simp [Session.make, Session.start, Move.isReset, hr, hc, Counter.fresh]
    · cases ht : (Route.resolve path).turn? with
      | none =>
        have hc := s.dispatcher.dispatch_frame s.counter ht hr
        simp [Session.make, Session.start, Move.isReset, Move.increment, hr, ht, hc]
      | some turn =>
        have hb := Behavior.turn?_eq_some_iff.1 ht
        have hc := congrArg Dispatched.counter (s.dispatcher.dispatch_turn s.counter hb)
        simp [Session.make, Session.start, Move.isReset, Move.increment, hr, ht, hc]
  · rw [he.counter, hr, hi, Nat.add_zero, hlt]
    rfl
  · exact Counter.advance_toNat s.counter step
  · rfl

/-! ## Runs -/

theorem run_sound (hs : Sound s) (moves : List Move) : Sound (s.run moves) :=
  run_induct (P := Sound) (fun _ move hs => make_sound hs move) moves hs

theorem run_dispatcher (hs : Sound s) (moves : List Move) :
    (s.run moves).dispatcher = s.dispatcher :=
  (run_induct (P := fun t => Sound t ∧ t.dispatcher = s.dispatcher)
    (fun _ move ht => ⟨make_sound ht.1 move, (make_dispatcher ht.1 move).trans ht.2⟩) moves
    ⟨hs, rfl⟩).2

/-- What a dispatch got when it started is honoured in every later state. -/
theorem Honours.run (hf : Honours s f) (hs : Sound s) (hid : f.id < s.started)
    (moves : List Move) : Honours (s.run moves) f ∧ f.id < (s.run moves).started :=
  (run_induct (P := fun t => Sound t ∧ Honours t f ∧ f.id < t.started)
    (fun _ move ht => ⟨make_sound ht.1 move, ht.2.1.make ht.1 ht.2.2 move,
      ht.2.2.trans_le (started_le_make ht.1 move)⟩) moves ⟨hs, hf, hid⟩).2

/-- In every state the counter is what the moves add up to, modulo `2 ^ 64`. -/
theorem run_counter (hs : Sound s) (moves : List Move) :
    (s.run moves).counter.value.toNat =
      Move.tally s.dispatcher.steps s.counter.value.toNat moves % 2 ^ 64 := by
  induction moves using List.reverseRecOn with
  | nil =>
    simp only [Move.tally, List.any_nil, List.rtakeWhile_nil, List.map_nil, List.sum_nil]
    exact (Nat.mod_eq_of_lt s.counter.value.toNat_lt).symm
  | append_singleton moves move ih =>
    -- The tally looks back to the last reset, so the induction takes the moves from their end.
    rw [run_concat, make_counter (run_sound hs moves), run_dispatcher hs, ih, Move.tally_concat]
    split
    · rfl
    · rw [Nat.mod_add_mod]

/-- The start of a turn, in any state: the value that it observes is the counter that it makes, and
decides what it gets. -/
theorem start_turn (s : Session) {path : List Char} {turn : Turn}
    (h : Route.resolve path = turn.behavior) (limit : Option Nat) :
    s.start path limit =
      let value := s.counter.value + turn.step s.dispatcher.steps
      { s with
        counter := ⟨value⟩
        started := s.started + 1
        flights := s.flights ++ [⟨s.started, turn.outcome s.dispatcher value, s.now, limit⟩]
        events := s.events ++ turn.events s.dispatcher path value } := by
  rw [start, s.dispatcher.dispatch_turn s.counter h]

/-- In every state the counter is what the moves so far add up to; timers and clients that give up
do not touch it. A turn among the moves has advanced it at its start, once, to the value that it
observed, and that value alone has decided what has become of it. -/
theorem counter_history (d : Dispatcher) (value : UInt64) (moves : List Move) :
    let s := (startingAt d value).run moves
    s.counter.value.toNat = Move.tally d.steps value.toNat moves % 2 ^ 64 ∧
      (∀ ms id, (s.pass ms).counter = s.counter ∧ (s.fire id).counter = s.counter ∧
        (s.abandon id).counter = s.counter) ∧
      ∀ (before : List Move) (path : List Char) (limit : Option Nat) (after : List Move)
        (turn : Turn), moves = before ++ .start path limit :: after →
        Route.resolve path = turn.behavior →
        let b := (startingAt d value).run before
        let own := b.counter.value + turn.step d.steps
        let f : Flight := ⟨b.started, turn.outcome d own, b.now, limit⟩
        b.start path limit =
            { b with
              counter := ⟨own⟩
              started := b.started + 1
              flights := b.flights ++ [f]
              events := b.events ++ turn.events d path own } ∧
          s.Honours f ∧ (s.flights.map (·.id) ++ s.landings.map (·.id)).count f.id = 1 := by
  intro s
  have hs := sound_startingAt d value
  refine ⟨run_counter hs moves, fun ms id => ⟨(ended_passWith _ _ _).counter, rfl, rfl⟩, ?_⟩
  intro before path limit after turn hmoves hturn b own f
  have hb : b.Sound := run_sound hs before
  have hd : b.dispatcher = d := run_dispatcher hs before
  have hstart := b.start_turn hturn limit
  have hf : f = b.launched path limit := by
    rw [launched, b.dispatcher.dispatch_turn b.counter hturn, hd]
  have hrun : s = (b.start path limit).run after := by
    simp only [s, b, hmoves, run_append]
    rfl
  -- The dispatch is honoured right after its start, and so it is in all that comes after.
  have hsound := sound_start hb path limit
  obtain ⟨hhon, hid⟩ := (hf ▸ honours_launched hb path limit).run hsound (Nat.lt_succ_self _) after
  refine ⟨?_, hrun ▸ hhon, hrun ▸ (run_sound hsound after).count_id hid⟩
  simpa only [hd] using hstart

/-- A turn that carries the counter over its largest value and is then given up. -/
theorem counter_history_carry :
    let d : Dispatcher := ⟨⟨12, 2⟩, Settings.defaultHang⟩
    let path := "/eachThirdReturns200OthersHang".toList
    let moves : List Move := [.start path none, .pass 5, .abandon 0, .advance 4]
    let s := (startingAt d (UInt64.ofNat (2 ^ 64 - 1))).run moves
    moves = [] ++ .start path none :: [.pass 5, .abandon 0, .advance 4] ∧
      Route.resolve path = Turn.hang.behavior ∧
        s.Honours ⟨0, ⟨.ok, some Settings.defaultHang⟩, 0, none⟩ ∧ s.counter.value.toNat = 5 := by
  intro d path moves s
  have hpath : Route.resolve path = Turn.hang.behavior := by decide
  obtain ⟨hcounter, _, hturn⟩ := counter_history d (UInt64.ofNat (2 ^ 64 - 1)) moves
  obtain ⟨_, hhon, _⟩ := hturn [] path none [.pass 5, .abandon 0, .advance 4] .hang rfl hpath
  have hone : Turn.outcome d .hang (UInt64.ofNat (2 ^ 64 - 1) + 2) =
      ⟨.ok, some Settings.defaultHang⟩ := by decide
  exact ⟨rfl, hpath, hone ▸ hhon, hcounter.trans (by decide)⟩

end Session

end FaultyServer.Dispatch
