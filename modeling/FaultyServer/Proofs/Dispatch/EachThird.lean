import FaultyServer.Proofs.Dispatch.Overlap
import Mathlib.Data.Nat.Prime.Basic
import Mathlib.Data.UInt

/-!
# Every third call

The alternating routes are meant to succeed on every third call. They do as long as the counter does
not wrap: after a reset, the value of a call is its number times the step, which is a multiple of
three if the step is one, and otherwise exactly for every third call. But the counter is a word of
64 bits, and `2 ^ 64` is no multiple of three; so what the call after a wrap gets is decided by what
is left of its value modulo `2 ^ 64`.

* `Dispatcher.counterAfter_turns`: the counter after calls of one route, among requests that leave
  it alone;
* `Session.answers_inTurn`: what a dispatch gets among others that are made one after another;
* `Session.each_third`: the law of an alternating route after a reset;
* `Session.each_third_wraps`: it cannot do without the bound on the counter.
-/

namespace FaultyServer

/-- Whether a behavior leaves the counter alone: it is no turn and not the reset. -/
def Behavior.leavesCounter (b : Behavior) : Bool := b.turn? == none && b != .resetCounter

namespace Turn

/-- What a turn gets that does not succeed: status 503 at once, or success after the hang. -/
def setback (d : Dispatcher) : Turn → Commitment
  | unavailable => ⟨.status .unavailable, none⟩
  | hang => ⟨.ok, some d.hang⟩

theorem outcome_eq (d : Dispatcher) (turn : Turn) (value : UInt64) :
    turn.outcome d value = if value.toNat % 3 = 0 then ⟨.ok, none⟩ else turn.setback d := by
  cases turn <;> rfl

/-- How many of the requests for these paths are calls of a turn's route. -/
def calls (turn : Turn) (paths : List (List Char)) : Nat :=
  paths.countP fun path => Route.resolve path == turn.behavior

/-- Without a wrap, the value of a call is a multiple of three exactly if the step is one or it is
the turn of a third call. -/
theorem value_mod_three {call step : Nat} (h : call * step < 2 ^ 64) :
    call * step % 2 ^ 64 % 3 = 0 ↔ step % 3 = 0 ∨ call % 3 = 0 := by
  rw [Nat.mod_eq_of_lt h, ← Nat.dvd_iff_mod_eq_zero, ← Nat.dvd_iff_mod_eq_zero,
    ← Nat.dvd_iff_mod_eq_zero, Nat.prime_three.dvd_mul, or_comm]

end Turn

namespace Dispatcher

theorem dispatch_of_leaves (d : Dispatcher) (c : Counter) {path : List Char}
    (h : (Route.resolve path).leavesCounter = true) : (d.dispatch c path).counter = c := by
  simp only [Behavior.leavesCounter, Bool.and_eq_true, beq_iff_eq, bne_iff_ne] at h
  exact d.dispatch_frame c h.1 h.2

/-- The counter after calls of one alternating route, among requests that leave it alone. -/
theorem counterAfter_turns (d : Dispatcher) (c : Counter) {turn : Turn} {paths : List (List Char)}
    (h : ∀ path ∈ paths,
      Route.resolve path = turn.behavior ∨ (Route.resolve path).leavesCounter = true) :
    (d.counterAfter c paths).value.toNat =
      (c.value.toNat + turn.calls paths * (turn.step d.steps).toNat) % 2 ^ 64 := by
  induction paths generalizing c with
  | nil =>
    rw [Turn.calls, List.countP_nil, Nat.zero_mul, Nat.add_zero]
    exact (Nat.mod_eq_of_lt c.value.toNat_lt).symm
  | cons path rest ih =>
    obtain ⟨hpath, hrest⟩ := List.forall_mem_cons.1 h
    rw [counterAfter, List.foldl_cons, ← counterAfter, ih _ hrest]
    rcases hpath with hturn | hleaves
    · -- One more call, which adds the step.
      have hcalls : turn.calls (path :: rest) = turn.calls rest + 1 :=
        List.countP_cons_of_pos (by simp [hturn])
      rw [d.dispatch_turn c hturn, hcalls, UInt64.toNat_add, Nat.mod_add_mod, Nat.succ_mul]
      congr 1
      omega
    · have hcalls : turn.calls (path :: rest) = turn.calls rest :=
        List.countP_cons_of_neg (by
          have hne : Route.resolve path ≠ turn.behavior := fun heq => by
            rw [heq] at hleaves
            cases turn <;> cases hleaves
          simpa using hne)
      rw [d.dispatch_of_leaves c hleaves, hcalls]

end Dispatcher

namespace Dispatch.Session

variable {s : Session}

/-- What the dispatch of `path` gets between those of `before` and of `after`, all made one after
another: it starts at the end of the one before it, with this commitment, and has ended in the end
as the commitment says. -/
structure Answers (s : Session) (before : List (List Char)) (path : List Char)
    (after : List (List Char)) (commitment : Commitment) : Prop where
  starts : ((s.inTurn before none).start path none).flights =
    [⟨(s.inTurn before none).started, commitment, (s.inTurn before none).now, none⟩]
  ends : (s.inTurn (before ++ path :: after) none).landing? (s.inTurn before none).started =
    some ⟨(s.inTurn before none).started, .replied commitment.reply,
      (s.inTurn before none).now + commitment.delay⟩

theorem inTurn_append (s : Session) (before after : List (List Char)) (limit : Option Nat) :
    s.inTurn (before ++ after) limit = (s.inTurn before limit).inTurn after limit :=
  List.foldl_append

theorem mem_inTurn_landings (h : s.flights = []) {l : Landing} (hl : l ∈ s.landings)
    (paths : List (List Char)) (limit : Option Nat) : l ∈ (s.inTurn paths limit).landings := by
  rw [inTurn_eq h]
  exact List.mem_append_left _ hl

/-- A dispatch among others gets what it is dispatched to with the counter that those before it
have left. -/
theorem answers_inTurn (hs : s.Sound) (h : s.flights = []) (before : List (List Char))
    (path : List Char) (after : List (List Char)) :
    s.Answers before path after
      (s.dispatcher.dispatch (s.dispatcher.counterAfter s.counter before) path).commitment := by
  obtain ⟨b, hb⟩ : ∃ b, s.inTurn before none = b := ⟨_, rfl⟩
  have heq := hb.symm.trans (inTurn_eq h before none)
  have hflights : b.flights = [] := by
    rw [heq]
    exact h
  have hcounter : b.counter = s.dispatcher.counterAfter s.counter before := by rw [heq]
  have hdispatcher : b.dispatcher = s.dispatcher := by rw [heq]
  rw [← hcounter, ← hdispatcher]
  constructor
  · rw [hb, start, hflights]
    rfl
  · have hsound : (s.inTurn (before ++ path :: after) none).Sound := hs.inTurn _ none
    rw [hb]
    refine hsound.landing?_eq (l := ⟨_, _, _⟩) ?_
    rw [inTurn_append, hb, inTurn_cons]
    refine mem_inTurn_landings (settle_flights _) ?_ after none
    rw [settle_start hflights]
    exact List.mem_append_right _ (List.mem_singleton_self _)

/-- The law of an alternating route after a reset, among requests that leave the counter alone. What
a call gets is decided by its number times the step, modulo `2 ^ 64`. As long as that does not wrap,
every call succeeds if the step is a multiple of three, and otherwise every third call does. -/
theorem each_third (d : Dispatcher) (value : UInt64) (turn : Turn) {reset : List Char}
    (hreset : Route.resolve reset = .resetCounter) {before : List (List Char)}
    (hbefore : ∀ path ∈ before,
      Route.resolve path = turn.behavior ∨ (Route.resolve path).leavesCounter = true)
    {path : List Char} (hpath : Route.resolve path = turn.behavior) (after : List (List Char)) :
    let answers := (startingAt d value).Answers (reset :: before) path after
    let call := turn.calls before + 1
    let step := (turn.step d.steps).toNat
    answers (if call * step % 2 ^ 64 % 3 = 0 then ⟨.ok, none⟩ else turn.setback d) ∧
      (call * step < 2 ^ 64 →
        (step % 3 = 0 → answers ⟨.ok, none⟩) ∧
        (step % 3 ≠ 0 → answers (if call % 3 = 0 then ⟨.ok, none⟩ else turn.setback d))) := by
  intro answers call step
  have hanswers :
      answers (if call * step % 2 ^ 64 % 3 = 0 then ⟨.ok, none⟩ else turn.setback d) := by
    -- The reset makes the counter that of the calls since.
    have hcounter : d.counterAfter ⟨value⟩ (reset :: before) = d.counterAfter .fresh before := by
      rw [Dispatcher.counterAfter, List.foldl_cons, d.dispatch_reset _ hreset,
        Dispatcher.counterAfter]
    have hvalue : ((d.counterAfter .fresh before).value + turn.step d.steps).toNat =
        call * step % 2 ^ 64 := by
      rw [UInt64.toNat_add, d.counterAfter_turns .fresh hbefore, Nat.mod_add_mod, Nat.succ_mul]
      exact congrArg (· % _) (congrArg (· + _) (Nat.zero_add _))
    have hcommitment : (d.dispatch (d.counterAfter .fresh before) path).commitment =
        turn.outcome d ((d.counterAfter .fresh before).value + turn.step d.steps) :=
      congrArg Dispatched.commitment (d.dispatch_turn _ hpath)
    rw [turn.outcome_eq, hvalue, ← hcounter] at hcommitment
    exact hcommitment ▸ answers_inTurn (sound_startingAt d value) rfl (reset :: before) path after
  refine ⟨hanswers, fun hlt => ?_⟩
  simp only [Turn.value_mod_three hlt] at hanswers
  refine ⟨fun hstep => ?_, fun hstep => ?_⟩
  · simpa [hstep] using hanswers
  · simpa [hstep] using hanswers

/-- The last call before the counter wraps. -/
theorem each_third_last :
    let d : Dispatcher := ⟨⟨2 ^ 62, 1⟩, Settings.defaultHang⟩
    let call := "/eachThirdReturns200Others503".toList
    let between := "/hang".toList
    let before := [call, between, call]
    Route.resolve "/resetCounter".toList = .resetCounter ∧
      (∀ path ∈ before, Route.resolve path = Turn.unavailable.behavior ∨
        (Route.resolve path).leavesCounter = true) ∧
      (startingAt d 5).Answers ("/resetCounter".toList :: before) call [call] ⟨.ok, none⟩ := by
  intro d call between before
  have hreset : Route.resolve "/resetCounter".toList = .resetCounter := by decide
  have hbefore : ∀ path ∈ before, Route.resolve path = Turn.unavailable.behavior ∨
      (Route.resolve path).leavesCounter = true := by decide
  have hcall : Route.resolve call = Turn.unavailable.behavior := by decide
  have hcalls : Turn.unavailable.calls before = 2 := by decide
  have hstep : (Turn.unavailable.step d.steps).toNat = 2 ^ 62 := by decide +kernel
  obtain ⟨_, hlaw⟩ := each_third d 5 .unavailable hreset hbefore hcall [call]
  rw [hcalls, hstep] at hlaw
  exact ⟨hreset, hbefore, (hlaw (by decide)).2 (by decide)⟩

/-- The law needs its bound. With a step that is a multiple of three, the second call after a reset
fails; with one that is none, the second call ends with the first one, after the hang of that. -/
theorem each_third_wraps :
    let d : Dispatcher := ⟨⟨2 ^ 64 - 1, 2 ^ 64 - 2⟩, Settings.defaultHang⟩
    let reset := "/resetCounter".toList
    let failing := "/eachThirdReturns200Others503".toList
    let hanging := "/eachThirdReturns200OthersHang".toList
    (d.steps.error.toNat % 3 = 0 ∧
      ((fresh d).inTurn [reset, failing, failing] none).landings =
        [⟨0, .replied .ok, 0⟩, ⟨1, .replied .ok, 0⟩, ⟨2, .replied (.status .unavailable), 0⟩]) ∧
    d.steps.hang.toNat % 3 ≠ 0 ∧
      ((fresh d).inTurn [reset, hanging, hanging] none).landings =
        [⟨0, .replied .ok, 0⟩, ⟨1, .replied .ok, 300000⟩, ⟨2, .replied .ok, 300000⟩] := by
  decide +kernel

end Dispatch.Session

end FaultyServer
