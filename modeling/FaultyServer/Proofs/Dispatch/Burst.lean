import FaultyServer.Proofs.Dispatch.EachThird
import FaultyServer.Proofs.Dispatch.Log
import Mathlib.Data.List.Range

/-!
# Bursts

A *burst* is a session in which nothing moves the counter but the calls of one alternating route.
Each call adds the step of the route, so that the values the calls observe only depend on how many
calls there are, and not on the order in which they come or on what else goes on.

* `Turn.wins`: by whole numbers, whether the `k`-th call of a burst succeeds. The counter wraps at
  `2 ^ 64`, which is one more than a multiple of three, so each wrap takes one from what the calls
  add up to;
* `Session.calls_values`: the values of the calls of a burst, and the counter in the end;
* `Session.calls_immediate`: which calls of a burst succeed at once;
* `Session.burst_law`: the law of a burst, whatever the order of its calls.
-/

namespace FaultyServer

namespace Turn

variable {value step i k m : Nat}

/-- As `2 ^ 64` is one more than a multiple of three, every wrap takes one away. -/
theorem wrapped_mod_three (sum : Nat) : sum % 2 ^ 64 % 3 = (sum - sum / 2 ^ 64) % 3 := by omega

/-- Whether the `k`-th call of a burst succeeds: what the calls add up to, less one for each wrap of
the counter, is a multiple of three. -/
def wins (value step k : Nat) : Bool :=
  (value + k * step - (value + k * step) / 2 ^ 64) % 3 == 0

theorem wins_eq : wins value step k = decide ((value + k * step) % 2 ^ 64 % 3 = 0) := by
  rw [wins, wrapped_mod_three, Bool.eq_iff_iff, beq_iff_eq, decide_eq_true_iff]

theorem wins_of_lt (h : value + k * step < 2 ^ 64) :
    wins value step k = decide ((value + k * step) % 3 = 0) := by
  rw [wins_eq, Nat.mod_eq_of_lt h]

/-- Of three calls in a row just one succeeds, as long as the counter does not wrap. -/
theorem countP_wins_three (hlt : value + (i + 3) * step < 2 ^ 64) (hstep : ¬ 3 ∣ step) :
    (List.range' (i + 1) 3).countP (wins value step) = 1 := by
  obtain ⟨base, hbase⟩ : ∃ base, (value + i * step) % 3 = base := ⟨_, rfl⟩
  obtain ⟨rest, hrest⟩ : ∃ rest, step % 3 = rest := ⟨_, rfl⟩
  have hwins : ∀ j ≤ 3, wins value step (i + j) = decide ((base + j * rest) % 3 = 0) := by
    intro j hj
    have hle : (i + j) * step ≤ (i + 3) * step := Nat.mul_le_mul_right step (by omega)
    rw [wins_of_lt (by omega), Nat.add_mul, ← Nat.add_assoc, ← hbase, ← hrest]
    simp only [Nat.add_mod, Nat.mul_mod, Nat.mod_mod]
  have hrange : List.range' (i + 1) 3 = [i + 1, i + 2, i + 3] := rfl
  rw [hrange, List.countP_cons, List.countP_cons, List.countP_cons, List.countP_nil,
    hwins 1 (by omega), hwins 2 (by omega), hwins 3 (by omega)]
  -- The step is no multiple of three, so the three values differ modulo three.
  have hbase' : base = 0 ∨ base = 1 ∨ base = 2 := by omega
  have hrest' : rest = 1 ∨ rest = 2 := by omega
  rcases hbase' with rfl | rfl | rfl <;> rcases hrest' with rfl | rfl <;> rfl

theorem countP_wins (hlt : value + 3 * m * step < 2 ^ 64) (hstep : ¬ 3 ∣ step) :
    (List.range' 1 (3 * m)).countP (wins value step) = m := by
  induction m with
  | zero => rfl
  | succ m ih =>
    have hle : 3 * m * step ≤ 3 * (m + 1) * step := Nat.mul_le_mul_right step (by omega)
    have hrange : List.range' 1 (3 * (m + 1)) =
        List.range' 1 (3 * m) ++ List.range' (3 * m + 1) 3 := by
      rw [Nat.add_comm (3 * m) 1, List.range'_append_1]
      rfl
    rw [hrange, List.countP_append, ih (by omega)]
    exact congrArg (m + ·) (countP_wins_three hlt hstep)

end Turn

namespace Dispatch

namespace Move

/-- Whether a move is a call of a turn's route. -/
def isCall (turn : Turn) : Move → Bool
  | start path _ => Route.resolve path == turn.behavior
  | _ => false

/-- Whether a move may happen in a burst: it is a call of the route, or it leaves the counter
alone. -/
def isOfBurst (turn : Turn) : Move → Bool
  | start path _ => Route.resolve path == turn.behavior || (Route.resolve path).leavesCounter
  | move => !move.isOutside

end Move

/-- Whether a dispatch succeeds at once. -/
def Start.isImmediate (e : Start) : Bool := e.flight.commitment == ⟨.ok, none⟩

namespace Session

variable {s : Session} {turn : Turn} {moves : List Move}

/-- The calls of a turn's route that moves start, in their order. -/
def calls (s : Session) (turn : Turn) (moves : List Move) : List Start :=
  (s.starts moves).filter fun e => Route.resolve e.path == turn.behavior

theorem starts_append (s : Session) (moves later : List Move) :
    s.starts (moves ++ later) = s.starts moves ++ (s.run moves).starts later := by
  induction moves generalizing s with
  | nil => rfl
  | cons move rest ih =>
    rw [List.cons_append, starts_cons, starts_cons, ih, List.append_assoc]
    rfl

theorem calls_append (s : Session) (turn : Turn) (moves later : List Move) :
    s.calls turn (moves ++ later) = s.calls turn moves ++ (s.run moves).calls turn later := by
  rw [calls, starts_append, List.filter_append]
  rfl

theorem mem_calls {e : Start} (he : e ∈ s.calls turn moves) :
    e ∈ s.starts moves ∧ Route.resolve e.path = turn.behavior := by
  simpa [calls] using he

/-- A move of a burst is a call, which adds the step and observes the sum, or it is none and leaves
the counter alone. -/
theorem calls_make (s : Session) {move : Move} (h : move.isOfBurst turn = true) :
    let value := s.counter.value + turn.step s.dispatcher.steps
    move.isCall turn = true ∧ (s.make move).counter = ⟨value⟩ ∧
        (s.calls turn [move]).map (·.value) = [value] ∨
      move.isCall turn = false ∧ (s.make move).counter = s.counter ∧ s.calls turn [move] = [] := by
  cases move with
  | start path limit =>
    by_cases hturn : Route.resolve path = turn.behavior
    · have hcounter := congrArg Session.counter (s.start_turn hturn limit)
      refine .inl ⟨by simp [Move.isCall, hturn], hcounter, ?_⟩
      simpa [calls, starts, startOf?, hturn] using congrArg Counter.value hcounter
    · have hleaves : (Route.resolve path).leavesCounter = true := by
        simpa [Move.isOfBurst, hturn] using h
      refine .inr ⟨by simp [Move.isCall, hturn], ?_, by simp [calls, starts, startOf?, hturn]⟩
      exact s.dispatcher.dispatch_of_leaves s.counter hleaves
  | pass ms => exact .inr ⟨rfl, (ended_passWith _ _ s).counter, rfl⟩
  | fire id => exact .inr ⟨rfl, rfl, rfl⟩
  | abandon id => exact .inr ⟨rfl, rfl, rfl⟩
  | advance step => cases h
  | reset => cases h

/-- The values of the calls of a burst, and the counter after it. -/
theorem calls_values (hs : s.Sound) (h : ∀ move ∈ moves, move.isOfBurst turn = true) :
    let sum := fun k => s.counter.value.toNat + k * (turn.step s.dispatcher.steps).toNat
    let n := moves.countP (·.isCall turn)
    (s.calls turn moves).map (·.value.toNat) = (List.range' 1 n).map (fun k => sum k % 2 ^ 64) ∧
      (s.run moves).counter.value.toNat = sum n % 2 ^ 64 := by
  intro sum
  induction moves using List.reverseRecOn with
  | nil =>
    refine ⟨rfl, ?_⟩
    simp only [sum, List.countP_nil, Nat.zero_mul, Nat.add_zero]
    exact (Nat.mod_eq_of_lt s.counter.value.toNat_lt).symm
  | append_singleton moves move ih =>
    -- The counter tells how many calls there have been, so the induction takes the moves from
    -- their end.
    obtain ⟨hmoves, hmove⟩ := List.forall_mem_append.1 h
    obtain ⟨hvalues, hcounter⟩ := ih hmoves
    have hd : (s.run moves).dispatcher = s.dispatcher := run_dispatcher hs moves
    have hstep := calls_make (s.run moves) (hmove move (List.mem_singleton_self move))
    rw [hd] at hstep
    dsimp only at hstep hvalues hcounter ⊢
    rw [calls_append, List.map_append, run_concat, List.countP_append, List.countP_singleton,
      hvalues]
    rcases hstep with ⟨hcall, hafter, hone⟩ | ⟨hcall, hafter, hnone⟩
    · have hsum : ((s.run moves).counter.value + turn.step s.dispatcher.steps).toNat =
          sum (moves.countP (·.isCall turn) + 1) % 2 ^ 64 := by
        rw [UInt64.toNat_add, hcounter, Nat.mod_add_mod]
        simp only [sum, Nat.succ_mul, Nat.add_assoc]
      have hlast := congrArg (List.map UInt64.toNat) hone
      rw [List.map_map, List.map_singleton, hsum] at hlast
      rw [hcall, if_pos rfl, hafter, hsum, List.range'_1_concat, List.map_append]
      refine ⟨congrArg (_ ++ ·) (hlast.trans ?_), rfl⟩
      rw [List.map_singleton, Nat.add_comm 1]
    · rw [hafter, hnone, hcounter, hcall]
      exact ⟨List.append_nil _, rfl⟩

/-- A call succeeds at once exactly if its value is a multiple of three. -/
theorem isImmediate_eq (hs : s.Sound) {e : Start} (he : e ∈ s.calls turn moves) :
    e.isImmediate = decide (e.value.toNat % 3 = 0) := by
  obtain ⟨hstart, hturn⟩ := mem_calls he
  rw [Start.isImmediate, commitment_starts hs hstart hturn, turn.outcome_eq]
  by_cases hvalue : e.value.toNat % 3 = 0
  · simp [hvalue]
  · cases turn <;> simp [hvalue, Turn.setback]

/-- Which calls of a burst succeed at once. -/
theorem calls_immediate (hs : s.Sound) (h : ∀ move ∈ moves, move.isOfBurst turn = true) :
    (s.calls turn moves).map Start.isImmediate =
      (List.range' 1 (moves.countP (·.isCall turn))).map
        (Turn.wins s.counter.value.toNat (turn.step s.dispatcher.steps).toNat) := by
  have hvalues := congrArg (List.map fun value => decide (value % 3 = 0)) (calls_values hs h).1
  rw [List.map_map, List.map_map] at hvalues
  calc (s.calls turn moves).map Start.isImmediate
      = (s.calls turn moves).map (fun e => decide (e.value.toNat % 3 = 0)) :=
        List.map_congr_left fun e he => isImmediate_eq hs he
    _ = _ := hvalues
    _ = _ := List.map_congr_left fun k _ => Turn.wins_eq.symm

/-- The value of the `i`-th call of a burst, counted from zero. -/
theorem value_of_call (hs : s.Sound) (h : ∀ move ∈ moves, move.isOfBurst turn = true) {i : Nat}
    {e : Start} (he : (s.calls turn moves)[i]? = some e) :
    e.value.toNat =
      (s.counter.value.toNat + (i + 1) * (turn.step s.dispatcher.steps).toNat) % 2 ^ 64 := by
  have hvalue := congrArg (·[i]?) (calls_values hs h).1
  dsimp only at hvalue
  rw [List.getElem?_map, he, List.getElem?_map] at hvalue
  obtain ⟨k, hk, hsum⟩ := Option.map_eq_some_iff.1 hvalue.symm
  obtain ⟨hi, rfl⟩ := List.getElem?_eq_some_iff.1 hk
  rw [List.getElem_range', Nat.one_mul, Nat.add_comm 1] at hsum
  exact hsum.symm

/-- If numbers tell which calls succeed at once, they also tell how many do. -/
theorem countP_isImmediate {calls : List Start} {numbers : List Nat} {wins : Nat → Bool}
    (h : calls.map Start.isImmediate = numbers.map wins) :
    calls.countP (·.isImmediate) = numbers.countP wins := by
  have hcount := congrArg (List.countP id) h
  rw [List.countP_map, List.countP_map] at hcount
  exact hcount

/-- How many calls of a burst succeed at once. -/
theorem countP_calls (hs : s.Sound) (h : ∀ move ∈ moves, move.isOfBurst turn = true) :
    (s.calls turn moves).countP (·.isImmediate) =
      (List.range' 1 (moves.countP (·.isCall turn))).countP
        (Turn.wins s.counter.value.toNat (turn.step s.dispatcher.steps).toNat) :=
  countP_isImmediate (calls_immediate hs h)

/-- How many succeed at once of calls that follow one another in a burst. -/
theorem countP_calls_drop_take (hs : s.Sound) (h : ∀ move ∈ moves, move.isOfBurst turn = true)
    {i m : Nat} (hle : i + m ≤ moves.countP (·.isCall turn)) :
    (((s.calls turn moves).drop i).take m).countP (·.isImmediate) =
      (List.range' (i + 1) m).countP
        (Turn.wins s.counter.value.toNat (turn.step s.dispatcher.steps).toNat) := by
  refine countP_isImmediate ?_
  rw [List.map_take, List.map_drop, calls_immediate hs h, ← List.map_drop, ← List.map_take,
    List.drop_range', List.take_range'_of_length_ge (by omega), Nat.mul_one, Nat.add_comm 1]

/-- The law of a burst, whatever the order of its calls and whatever else goes on. The `k`-th call
observes what the calls up to it add up to, modulo `2 ^ 64`, and that decides what it gets. Another
burst of as many calls gives the same values, as many immediate successes and the same counter. As
long as the counter does not wrap and the step is no multiple of three, one of every three calls in
a row succeeds at once. -/
theorem burst_law (d : Dispatcher) (value : UInt64) (turn : Turn) {moves : List Move}
    (h : ∀ move ∈ moves, move.isOfBurst turn = true) :
    let s := startingAt d value
    let calls := s.calls turn moves
    let n := moves.countP (·.isCall turn)
    let step := (turn.step d.steps).toNat
    let sum := fun k => value.toNat + k * step
    calls.map (·.value.toNat) = (List.range' 1 n).map (fun k => sum k % 2 ^ 64) ∧
    (s.run moves).counter.value.toNat = sum n % 2 ^ 64 ∧
    (∀ i e, calls[i]? = some e →
      (Counter.isSuccessTurn e.value = true ↔ (sum (i + 1) - sum (i + 1) / 2 ^ 64) % 3 = 0) ∧
      e.flight.commitment =
        (if Counter.isSuccessTurn e.value then ⟨.ok, none⟩ else turn.setback d) ∧
      (s.run moves).Honours e.flight) ∧
    calls.countP (·.isImmediate) = (List.range' 1 n).countP (Turn.wins value.toNat step) ∧
    (∀ others : List Move, (∀ move ∈ others, move.isOfBurst turn = true) →
      others.countP (·.isCall turn) = n →
      (s.calls turn others).map (·.value) = calls.map (·.value) ∧
      (s.calls turn others).countP (·.isImmediate) = calls.countP (·.isImmediate) ∧
      (s.run others).counter = (s.run moves).counter) ∧
    (sum n < 2 ^ 64 → ¬ 3 ∣ step →
      (∀ i, i + 3 ≤ n → ((calls.drop i).take 3).countP (·.isImmediate) = 1) ∧
      (3 ∣ n → calls.countP (·.isImmediate) = n / 3)) := by
  intro s calls n step sum
  have hs : s.Sound := sound_startingAt d value
  obtain ⟨hvalues, hcounter⟩ := calls_values hs h
  have hcount : calls.countP (·.isImmediate) =
      (List.range' 1 n).countP (Turn.wins value.toNat step) := countP_calls hs h
  refine ⟨hvalues, hcounter, fun i e he => ⟨?_, ?_, ?_⟩, hcount, fun others hothers hn => ?_,
    fun hlt hstep => ⟨fun i hi => ?_, ?_⟩⟩
  · rw [Counter.isSuccessTurn_eq, decide_eq_true_iff, value_of_call hs h he,
      Turn.wrapped_mod_three]
    rfl
  · obtain ⟨hstart, hturn⟩ := mem_calls (List.mem_of_getElem? he)
    rw [commitment_starts hs hstart hturn, turn.outcome_eq, Counter.isSuccessTurn_eq]
    simp only [decide_eq_true_eq]
    rfl
  · exact (honours_starts hs (mem_calls (List.mem_of_getElem? he)).1).1
  · obtain ⟨hvalues', hcounter'⟩ := calls_values hs hothers
    have hcount' := countP_calls hs hothers
    rw [hn] at hvalues' hcounter' hcount'
    refine ⟨?_, hcount'.trans hcount.symm, ?_⟩
    · refine (List.map_inj_right fun _ _ => UInt64.toNat_inj.1).1 ?_
      rw [List.map_map, List.map_map]
      exact hvalues'.trans hvalues.symm
    · exact congrArg Counter.mk (UInt64.toNat_inj.1 (hcounter'.trans hcounter.symm))
  · have hle : (i + 3) * step ≤ n * step := Nat.mul_le_mul_right step hi
    have hlt' : value.toNat + (i + 3) * step < 2 ^ 64 :=
      (Nat.add_le_add_left hle value.toNat).trans_lt hlt
    exact (countP_calls_drop_take hs h hi).trans (Turn.countP_wins_three hlt' hstep)
  · rintro ⟨m, hm⟩
    rw [hcount, hm, Nat.mul_div_cancel_left m (by omega)]
    exact Turn.countP_wins (by rw [← hm]; exact hlt) hstep

/-- Three calls of the route that hangs, the second of which wraps the counter; and three calls
without a wrap. -/
theorem burst_law_wrap :
    let d : Dispatcher := ⟨⟨12, 5⟩, Settings.defaultHang⟩
    let call := "/eachThirdReturns200OthersHang".toList
    let moves : List Move := [.start call (some 7), .start "/hang".toList none, .abandon 1,
      .start call none, .pass 100, .start call none]
    let s := startingAt d (UInt64.ofNat (2 ^ 64 - 6))
    (∀ move ∈ moves, move.isOfBurst .hang = true) ∧
      (s.calls .hang moves).map (·.value.toNat) = [2 ^ 64 - 1, 4, 9] ∧
      (s.calls .hang moves).countP (·.isImmediate) = 2 ∧
      ((startingAt d 1).calls .hang moves).countP (·.isImmediate) = 1 := by
  intro d call moves s
  have hmoves : ∀ move ∈ moves, move.isOfBurst .hang = true := by decide
  have hn : moves.countP (·.isCall .hang) = 3 := by decide
  have hstep : (Turn.hang.step d.steps).toNat = 5 := by decide +kernel
  have hvalue : (UInt64.ofNat (2 ^ 64 - 6)).toNat = 2 ^ 64 - 6 := by decide +kernel
  obtain ⟨hvalues, _, _, hcount, _, _⟩ := burst_law d (UInt64.ofNat (2 ^ 64 - 6)) .hang hmoves
  obtain ⟨_, _, _, _, _, hthird⟩ := burst_law d 1 .hang hmoves
  rw [hn, hstep, hvalue] at hvalues hcount
  rw [hn, hstep] at hthird
  have hlt : (1 : UInt64).toNat + 3 * 5 < 2 ^ 64 := by decide
  exact ⟨hmoves, hvalues.trans (by decide), hcount.trans (by decide),
    (hthird hlt (by decide)).2 (by decide)⟩

end Session

end Dispatch

end FaultyServer
