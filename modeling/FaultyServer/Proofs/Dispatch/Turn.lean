import FaultyServer.Dispatch.Session
import Mathlib.Algebra.Order.Ring.Nat
import Mathlib.Tactic.Common

/-!
# Turns

The dispatches of the two alternating routes are the *turns*. A turn advances the counter by the
step of its route and observes the value it has made; whether that value is a multiple of three
decides what the turn gets (`Turn.outcome`).

* `dispatch_turn`: a turn, spelled out;
* `dispatch_reset`, `dispatch_frame`: what any other dispatch does to the counter (`Route.resolve`
  says whose turn it is, if any).
-/

namespace FaultyServer

namespace Counter

theorem advance_toNat (c : Counter) (step : UInt64) :
    (c.advance step).value.toNat = (c.value.toNat + step.toNat) % 2 ^ 64 :=
  UInt64.toNat_add _ _

theorem isSuccessTurn_eq (value : UInt64) :
    isSuccessTurn value = decide (value.toNat % 3 = 0) := by
  have h : (value % period).toNat = value.toNat % 3 := UInt64.toNat_mod _ _
  rw [isSuccessTurn, ← h, Bool.eq_iff_iff, beq_iff_eq, decide_eq_true_iff]
  exact UInt64.toNat_inj.symm

end Counter

namespace Turn

/-- The behavior of the route whose turn it is. -/
def behavior : Turn → Behavior
  | unavailable => .eachThirdOthersUnavailable
  | hang => .eachThirdOthersHang

/-- How far a turn advances the counter. -/
def step (steps : Steps) : Turn → UInt64
  | unavailable => steps.error
  | hang => steps.hang

/-- What a turn gets that has made this value: success at once if it is a multiple of three, and
otherwise status 503 at once, or success after the hang. -/
def outcome (d : Dispatcher) (turn : Turn) (value : UInt64) : Commitment :=
  if value.toNat % 3 = 0 then ⟨.ok, none⟩
  else
    match turn with
    | unavailable => ⟨.status .unavailable, none⟩
    | hang => ⟨.ok, some d.hang⟩

/-- What a turn logs that has made this value. -/
def events (d : Dispatcher) (turn : Turn) (path : List Char) (value : UInt64) : List Event :=
  .resolved (String.ofList path) turn.behavior ::
    .counterAdvanced turn value (decide (value.toNat % 3 = 0)) ::
      (turn.outcome d value).hold.toList.map .requestHeld

end Turn

/-- The route whose turn a behavior is, if it is one. -/
def Behavior.turn? : Behavior → Option Turn
  | eachThirdOthersUnavailable => some .unavailable
  | eachThirdOthersHang => some .hang
  | _ => none

theorem Behavior.turn?_eq_some_iff {b : Behavior} {turn : Turn} :
    b.turn? = some turn ↔ b = turn.behavior := by
  cases b <;> cases turn <;> simp [turn?, Turn.behavior]

namespace Dispatcher

variable (d : Dispatcher) (c : Counter)

/-- A turn, spelled out: the counter it makes is the value it observes and logs, and that value
alone decides what it gets. -/
theorem dispatch_turn {path : List Char} {turn : Turn} (h : Route.resolve path = turn.behavior) :
    d.dispatch c path =
      let value := c.value + turn.step d.steps
      ⟨turn.outcome d value, ⟨value⟩, turn.events d path value⟩ := by
  cases turn with
  | unavailable =>
    simp only [dispatch, show Route.resolve path = .eachThirdOthersUnavailable from h, perform,
      Counter.advance, Counter.isSuccessTurn_eq, Turn.step, Turn.outcome, Turn.events]
    by_cases hv : (c.value + d.steps.error).toNat % 3 = 0 <;>
      simp only [hv, decide_true, decide_false, if_true, if_false, Bool.false_eq_true] <;> rfl
  | hang =>
    simp only [dispatch, show Route.resolve path = .eachThirdOthersHang from h, perform,
      Counter.advance, Counter.isSuccessTurn_eq, Turn.step, Turn.outcome, Turn.events]
    by_cases hv : (c.value + d.steps.hang).toNat % 3 = 0 <;>
      simp only [hv, decide_true, decide_false, if_true, if_false, Bool.false_eq_true] <;> rfl

theorem dispatch_reset {path : List Char} (h : Route.resolve path = .resetCounter) :
    (d.dispatch c path).counter = .fresh := by
  simp only [dispatch, h, perform]

/-- A dispatch that is no turn and no reset leaves the counter alone. -/
theorem dispatch_frame {path : List Char} (ht : (Route.resolve path).turn? = none)
    (hr : Route.resolve path ≠ .resetCounter) : (d.dispatch c path).counter = c := by
  cases hb : Route.resolve path <;> simp_all [dispatch, perform, Behavior.turn?]

end Dispatcher

end FaultyServer
