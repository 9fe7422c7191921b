import FaultyServer.Proofs.Dispatch.History

/-!
# Dispatches in turn and all at once

Paths can be dispatched one after another, each when the one before has ended, or all at once. The
dispatches start in the same order either way, and a dispatch is decided when it starts; so both
give the same replies, the same counter and the same log, and differ only in when the dispatches
end (`Session.together_inTurn`).

* `Dispatcher.dispatchAll`: the dispatches of paths in their order, without a clock;
* `Session.inTurn_eq`, `Session.startAll_eq`: a session that makes them in turn, and one that has
  started them all;
* `Session.settle_flights`, `Session.OnCourse.settle`: in the end nothing is in flight, and every
  dispatch has ended when it was due.
-/

namespace FaultyServer

namespace Dispatcher

variable (d : Dispatcher) (c : Counter)

/-- The dispatches of paths in their order, each with the counter that the one before has left. -/
def dispatchAll : Counter → List (List Char) → List Dispatched
  | _, [] => []
  | c, path :: rest => d.dispatch c path :: dispatchAll (d.dispatch c path).counter rest

/-- The counter after the dispatches of paths in their order. -/
def counterAfter (c : Counter) (paths : List (List Char)) : Counter :=
  paths.foldl (fun c path => (d.dispatch c path).counter) c

@[simp]
theorem length_dispatchAll (paths : List (List Char)) :
    (d.dispatchAll c paths).length = paths.length := by
  induction paths generalizing c with
  | nil => rfl
  | cons path rest ih => simp only [dispatchAll, List.length_cons, ih]

/-- The dispatch of a path comes after those before it, with the counter that they have left. -/
theorem getElem?_dispatchAll (paths : List (List Char)) (i : Nat) :
    (d.dispatchAll c paths)[i]? =
      (paths[i]?).map (d.dispatch (d.counterAfter c (paths.take i))) := by
  induction paths generalizing c i with
  | nil => rfl
  | cons path rest ih =>
    cases i with
    | zero => rfl
    | succ i => exact ih _ i

/-- What is carried out does not hang, or it hangs for the duration of the dispatcher. -/
theorem perform_hold (behavior : Behavior) :
    (d.perform c behavior).commitment.hold = none ∨
      (d.perform c behavior).commitment.hold = some d.hang := by
  cases behavior with
  | hang => exact .inr rfl
  | eachThirdOthersHang =>
    simp only [perform]
    split
    · exact .inl rfl
    · exact .inr rfl
  | _ => exact .inl rfl

/-- A dispatch takes no time, or it hangs for the duration of the dispatcher, in whole milliseconds
and for thirty years at most. -/
theorem dispatch_delay (d : Dispatcher) (c : Counter) (path : List Char) :
    let commitment := (d.dispatch c path).commitment
    commitment.hold = none ∧ commitment.delay = 0 ∨
      commitment.hold = some d.hang ∧
        commitment.delay = min ((d.hang.totalNanos + 999999) / 1000000) 946080000000 := by
  intro commitment
  rcases d.perform_hold c (Route.resolve path) with hnone | hsome
  · exact .inl ⟨hnone, by simp only [Commitment.delay, show commitment.hold = none from hnone]⟩
  · refine .inr ⟨hsome, ?_⟩
    simp only [Commitment.delay, show commitment.hold = some d.hang from hsome]
    rfl

end Dispatcher

namespace Commitment

/-- How long a client with a limit is kept by a dispatch with this commitment. -/
def spent (limit : Option Nat) (commitment : Commitment) : Nat :=
  match limit with
  | none => commitment.delay
  | some t => min t commitment.delay

/-- How a dispatch with this commitment ends for a client with a limit. -/
def ending (limit : Option Nat) (commitment : Commitment) : Dispatch.Ending :=
  match limit with
  | none => .replied commitment.reply
  | some t => if t < commitment.delay then .timedOut else .replied commitment.reply

end Commitment

namespace Dispatch

theorem Flight.landing_eq (f : Flight) :
    f.landing =
      ⟨f.id, f.commitment.ending f.limit, f.begun + f.commitment.spent f.limit⟩ := by
  rcases f with ⟨id, commitment, begun, _ | t⟩
  · rfl
  · simp [landing, Flight.ending, isAbandoned, finish, Commitment.ending, Commitment.spent]

theorem Flight.finish_eq (f : Flight) : f.finish = f.begun + f.commitment.spent f.limit :=
  congrArg Landing.time f.landing_eq

namespace Session

variable {s : Session} {f : Flight} {fuel : Nat}

/-- The ends of the dispatches in the order of their starts, of those that have ended. -/
def inOrder (s : Session) : List (Option Landing) := (List.range s.started).map s.landing?

/-- Starts the dispatches of paths in their order, at the same instant. -/
def startAll (s : Session) (paths : List (List Char)) (limit : Option Nat) : Session :=
  paths.foldl (fun s path => s.start path limit) s

theorem together_eq (s : Session) (paths : List (List Char)) (limit : Option Nat) :
    s.together paths limit = (s.startAll paths limit).settle := rfl

theorem startAll_cons (s : Session) (path : List Char) (rest : List (List Char))
    (limit : Option Nat) :
    s.startAll (path :: rest) limit = (s.start path limit).startAll rest limit := rfl

theorem inTurn_cons (s : Session) (path : List Char) (rest : List (List Char))
    (limit : Option Nat) :
    s.inTurn (path :: rest) limit = (s.start path limit).settle.inTurn rest limit := rfl

/-! ## One after another -/

/-- A dispatch that is alone in flight ends when it is due. -/
theorem settle_singleton (h : s.flights = [f]) : s.settle = s.moveTo f.finish := by
  simp [settle, settleWith, earliest?, h]

/-- A dispatch that starts with nothing else in flight, from its start to its end. -/
theorem settle_start (h : s.flights = []) (path : List Char) (limit : Option Nat) :
    (s.start path limit).settle =
      let done := s.dispatcher.dispatch s.counter path
      { s with
        now := s.now + done.commitment.spent limit
        counter := done.counter
        started := s.started + 1
        landings := s.landings ++ [⟨s.started, done.commitment.ending limit,
          s.now + done.commitment.spent limit⟩]
        events := s.events ++ done.events } := by
  have hflights : (s.start path limit).flights = [s.launched path limit] := by
    simp [start, launched, h]
  rw [settle_singleton hflights, moveTo, hflights]
  simp [start, h, Flight.landing_eq, Flight.finish_eq, launched]

/-- Dispatches one after another: each takes its time, so that it ends after the sum of their times
so far. -/
theorem inTurn_eq (h : s.flights = []) (paths : List (List Char)) (limit : Option Nat) :
    s.inTurn paths limit =
      let done := s.dispatcher.dispatchAll s.counter paths
      { s with
        now := s.now + (done.map (·.commitment.spent limit)).sum
        counter := s.dispatcher.counterAfter s.counter paths
        started := s.started + paths.length
        landings := s.landings ++ done.mapIdx fun i e =>
          ⟨s.started + i, e.commitment.ending limit,
            s.now + ((done.take (i + 1)).map (·.commitment.spent limit)).sum⟩
        events := s.events ++ done.flatMap (·.events) } := by
  induction paths generalizing s with
  | nil => simp [inTurn, Dispatcher.dispatchAll, Dispatcher.counterAfter]
  | cons path rest ih =>
    rw [inTurn_cons, settle_start h, ih (by exact h)]
    simp [Dispatcher.dispatchAll, Dispatcher.counterAfter, List.mapIdx_cons, Nat.add_assoc,
      Nat.add_comm 1]

/-! ## All at once -/

/-- Dispatches that have started at the same instant. -/
theorem startAll_eq (s : Session) (paths : List (List Char)) (limit : Option Nat) :
    s.startAll paths limit =
      let done := s.dispatcher.dispatchAll s.counter paths
      { s with
        counter := s.dispatcher.counterAfter s.counter paths
        started := s.started + paths.length
        flights := s.flights ++ done.mapIdx fun i e => ⟨s.started + i, e.commitment, s.now, limit⟩
        events := s.events ++ done.flatMap (·.events) } := by
  induction paths generalizing s with
  | nil => simp [startAll, Dispatcher.dispatchAll, Dispatcher.counterAfter]
  | cons path rest ih =>
    rw [startAll_cons, ih]
    simp [start, Dispatcher.dispatchAll, Dispatcher.counterAfter, List.mapIdx_cons, Nat.add_assoc,
      Nat.add_comm 1]

/-! ## Until nothing is in flight -/

theorem ended_settleWith (fuel : Nat) (s : Session) : Ended s (s.settleWith fuel) := by
  induction fuel generalizing s with
  | zero => exact .refl
  | succ fuel ih =>
    rw [settleWith]
    split
    · exact .refl
    · exact (ended_moveTo s _).trans (ih _)

theorem ended_settle (s : Session) : Ended s s.settle := ended_settleWith _ s

theorem Ended.events {t : Session} (h : Ended s t) : t.events = s.events :=
  h.induct (P := fun t => t.events = s.events) (fun hst hs => hst.events.trans hs) rfl

/-- At the earliest end of all there is a dispatch that ends. -/
theorem length_moveTo_lt {time : Nat} (h : earliest? s.flights = some time) :
    (s.moveTo time).flights.length < s.flights.length := by
  obtain ⟨f, hf, hfinish⟩ := List.mem_map.1 (List.min?_mem h)
  refine List.length_filter_lt_length_iff_exists.2 ⟨f, hf, ?_⟩
  simp [hfinish]

theorem settleWith_flights (h : s.flights.length ≤ fuel) : (s.settleWith fuel).flights = [] := by
  induction fuel generalizing s with
  | zero => exact List.length_eq_zero_iff.1 (Nat.le_zero.1 h)
  | succ fuel ih =>
    rw [settleWith]
    split
    · next hnone => exact List.map_eq_nil_iff.1 (List.min?_eq_none_iff.1 hnone)
    · next hsome => exact ih (Nat.le_of_lt_succ ((length_moveTo_lt hsome).trans_le h))

/-- In the end nothing is in flight. -/
theorem settle_flights (s : Session) : s.settle.flights = [] := settleWith_flights le_rfl

/-- A dispatch is in flight, or it has ended as and when nothing cut it short. -/
def OnCourse (f : Flight) (s : Session) : Prop := f ∈ s.flights ∨ f.landing ∈ s.landings

theorem OnCourse.moveTo (h : OnCourse f s) (time : Nat) : OnCourse f (s.moveTo time) := by
  rcases h with hflight | hlanding
  · by_cases hle : f.finish ≤ time
    · refine .inr (List.mem_append_right _ (List.mem_map_of_mem ?_))
      exact List.mem_filter.2 ⟨hflight, decide_eq_true hle⟩
    · exact .inl (List.mem_filter.2 ⟨hflight, by simpa using hle⟩)
  · exact .inr (List.mem_append_left _ hlanding)

theorem OnCourse.settleWith (h : OnCourse f s) (fuel : Nat) : OnCourse f (s.settleWith fuel) := by
  induction fuel generalizing s with
  | zero => exact h
  | succ fuel ih =>
    rw [Session.settleWith]
    split
    · exact h
    · exact ih (h.moveTo _)

/-- In the end every dispatch has ended when it was due. -/
theorem OnCourse.settle (h : OnCourse f s) : f.landing ∈ s.settle.landings := by
  have hend : OnCourse f s.settle := h.settleWith _
  rw [OnCourse, settle_flights] at hend
  exact hend.resolve_left List.not_mem_nil

/-- The end of a dispatch is found by its number. -/
theorem Sound.landing?_eq (hs : s.Sound) {l : Landing} (hl : l ∈ s.landings) :
    s.landing? l.id = some l := by
  have hnodup : (s.landings.map (·.id)).Nodup :=
    (List.nodup_append.1 (hs.ids.nodup_iff.2 List.nodup_range)).2.1
  obtain ⟨l', hl'⟩ := Option.isSome_iff_exists.1
    (List.find?_isSome (p := (·.id == l.id)).2 ⟨l, hl, beq_self_eq_true l.id⟩)
  have hid : l'.id = l.id := by simpa using List.find?_some hl'
  rw [landing?, hl', List.inj_on_of_nodup_map hnodup (List.mem_of_find?_eq_some hl') hl hid]

/-- The ends in order, once there is one for each of the dispatches that have been made. -/
theorem Sound.inOrder_eq (hs : s.Sound) {done : List Dispatched}
    {landing : Nat → Dispatched → Landing} (hlength : done.length = s.started)
    (hid : ∀ i e, (landing i e).id = i)
    (hmem : ∀ i e, done[i]? = some e → landing i e ∈ s.landings) :
    s.inOrder = done.mapIdx fun i e => some (landing i e) := by
  refine List.ext_getElem (by simp [inOrder, hlength]) fun i _ hi => ?_
  rw [List.length_mapIdx] at hi
  have hfound := hs.landing?_eq (hmem i _ (List.getElem?_eq_getElem hi))
  rw [hid] at hfound
  simpa [inOrder] using hfound

theorem Sound.settle (hs : s.Sound) : s.settle.Sound := (ended_settle s).induct Ends.sound hs

theorem Sound.startAll (hs : s.Sound) (paths : List (List Char)) (limit : Option Nat) :
    (s.startAll paths limit).Sound := by
  induction paths generalizing s with
  | nil => exact hs
  | cons path rest ih => exact ih (sound_start hs path limit)

theorem Sound.inTurn (hs : s.Sound) (paths : List (List Char)) (limit : Option Nat) :
    (s.inTurn paths limit).Sound := by
  induction paths generalizing s with
  | nil => exact hs
  | cons path rest ih => exact ih (sound_start hs path limit).settle

/-! ## Both ways -/

/-- All at once, no dispatch delays another. -/
theorem together_inOrder (d : Dispatcher) (value : UInt64) (paths : List (List Char))
    (limit : Option Nat) :
    ((startingAt d value).together paths limit).inOrder =
      (d.dispatchAll ⟨value⟩ paths).mapIdx fun i e =>
        some ⟨i, e.commitment.ending limit, e.commitment.spent limit⟩ := by
  have hs := ((sound_startingAt d value).startAll paths limit).settle
  have hstart := startAll_eq (startingAt d value) paths limit
  rw [together_eq]
  refine hs.inOrder_eq ?_ (fun _ _ => rfl) fun i e he => ?_
  · rw [(ended_settle _).started, hstart]
    simp [startingAt, fresh]
  · -- It was in flight from the start of all.
    let f : Flight := ⟨i, e.commitment, 0, limit⟩
    have hf : f ∈ ((startingAt d value).startAll paths limit).flights := by
      rw [hstart]
      refine List.mem_of_getElem? (i := i) ?_
      simp [startingAt, fresh, he, f]
    have hlanding := OnCourse.settle (.inl hf)
    rw [f.landing_eq] at hlanding
    simpa [f] using hlanding

/-- One after another, a dispatch ends after the times of all up to it. -/
theorem inTurn_inOrder (d : Dispatcher) (value : UInt64) (paths : List (List Char))
    (limit : Option Nat) :
    let done := d.dispatchAll ⟨value⟩ paths
    ((startingAt d value).inTurn paths limit).inOrder =
      done.mapIdx fun i e => some ⟨i, e.commitment.ending limit,
        ((done.take (i + 1)).map (·.commitment.spent limit)).sum⟩ := by
  have hs := (sound_startingAt d value).inTurn paths limit
  have heq := inTurn_eq (s := startingAt d value) rfl paths limit
  refine hs.inOrder_eq ?_ (fun _ _ => rfl) fun i e he => ?_
  · rw [heq]
    simp [startingAt, fresh]
  · rw [heq]
    refine List.mem_of_getElem? (i := i) ?_
    simp [startingAt, fresh, he]

/-- Dispatching paths all at once and one after another gives the same replies, the same counter
after every dispatch and the same log, also with clients that give up. All at once, every dispatch
takes its own delay, as if it were alone; one after another, it takes the delays of all up to it.
A client gives up exactly if its limit is less than the delay. -/
theorem together_inTurn (d : Dispatcher) (value : UInt64) (paths : List (List Char))
    (limit : Option Nat) :
    let s := startingAt d value
    let done := d.dispatchAll ⟨value⟩ paths
    let all := s.together paths limit
    let turns := s.inTurn paths limit
    (all.inOrder.map (·.map (·.ending)) = turns.inOrder.map (·.map (·.ending)) ∧
      all.counter = turns.counter ∧ all.events = turns.events) ∧
    (∀ i, done[i]? = (paths[i]?).map (d.dispatch (d.counterAfter ⟨value⟩ (paths.take i)))) ∧
    (∀ k, (s.startAll (paths.take k) limit).counter = d.counterAfter ⟨value⟩ (paths.take k) ∧
      (s.inTurn (paths.take k) limit).counter = d.counterAfter ⟨value⟩ (paths.take k)) ∧
    (∀ e ∈ done, e.commitment.hold = none ∧ e.commitment.delay = 0 ∨
      e.commitment.hold = some d.hang ∧
        e.commitment.delay = min ((d.hang.totalNanos + 999999) / 1000000) 946080000000) ∧
    all.inOrder = (done.mapIdx fun i e =>
      some ⟨i, e.commitment.ending limit, e.commitment.spent limit⟩) ∧
    turns.inOrder = done.mapIdx fun i e => some ⟨i, e.commitment.ending limit,
      ((done.take (i + 1)).map (·.commitment.spent limit)).sum⟩ := by
  intro s done all turns
  have hall : all.inOrder = _ := together_inOrder d value paths limit
  have hturns : turns.inOrder = _ := inTurn_inOrder d value paths limit
  have hstart := fun paths => startAll_eq s paths limit
  have hturn := fun paths => inTurn_eq (s := s) rfl paths limit
  have hended : Ended (s.startAll paths limit) all := ended_settle _
  refine ⟨⟨?_, ?_, ?_⟩, d.getElem?_dispatchAll _ paths, fun k => ⟨?_, ?_⟩, fun e he => ?_, hall,
    hturns⟩
  · rw [hall, hturns]
    refine List.ext_getElem? fun i => ?_
    simp [Function.comp_def]
  · rw [hended.counter, hstart, show turns = _ from hturn paths]
  · rw [hended.events, hstart, show turns = _ from hturn paths]
  · rw [hstart]
    rfl
  · rw [hturn]
    rfl
  · obtain ⟨i, hi⟩ := List.getElem?_of_mem he
    rw [d.getElem?_dispatchAll] at hi
    obtain ⟨path, _, rfl⟩ := Option.map_eq_some_iff.1 hi
    exact d.dispatch_delay _ path

end Session

end Dispatch

end FaultyServer
