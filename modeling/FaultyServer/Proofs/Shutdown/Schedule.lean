import FaultyServer.Shutdown.Session
import Mathlib.Data.Option.Basic

/-!
# The schedule of a shutdown

When the tasks of a session end, by their plans alone and without running any of them. A task ends
after its sleep, which starts when the task is spawned or, if the task waits for the cancellation,
when that has happened, too (`Spawned.endsAt`). The cancellation happens at the first instant at
which a step of the session cancels, a signal comes, or a task cancels at its end
(`History.cancelledAt?`); a task that waits for the cancellation is not the first to cancel.
-/

namespace FaultyServer.Shutdown

/-- A tracked task and the instant at which it has been spawned. -/
structure Spawned where
  plan : Plan
  born : Nat

namespace Spawned

/-- When a task starts to sleep, given when the cancellation happens. -/
def startsAt (sp : Spawned) (cancelled : Option Nat) : Option Nat :=
  if sp.plan.awaitsCancel then cancelled.map (max sp.born) else some sp.born

/-- When a task ends, given when the cancellation happens. -/
def endsAt (sp : Spawned) (cancelled : Option Nat) : Option Nat := do
  let start ← sp.startsAt cancelled
  let ms ← sp.plan.sleep
  some (start + min ms Timer.longest)

/-- When a task cancels that does not wait for the cancellation. -/
def cancelsAt (sp : Spawned) : Option Nat := if sp.plan.cancels then sp.endsAt none else none

end Spawned

/-- What has happened in a session: the tasks that have been spawned, in their order, and the
instants at which a step has cancelled or a signal was to come. -/
structure History where
  spawned : List Spawned
  triggers : List Nat

namespace History

/-- The instants at which something cancels. -/
def cancellations (h : History) : List Nat := h.triggers ++ h.spawned.filterMap Spawned.cancelsAt

/-- When the cancellation happens, if it ever does. -/
def cancelledAt? (h : History) : Option Nat := h.cancellations.min?

/-- A task is spawned. -/
def spawn (h : History) (plan : Plan) (now : Nat) : History :=
  { h with spawned := h.spawned ++ [⟨plan, now⟩] }

/-- Something other than a task cancels. -/
def trigger (h : History) (time : Nat) : History := { h with triggers := h.triggers ++ [time] }

/-- What a step at an instant adds to the history. -/
def record (h : History) (now : Nat) : Step → History
  | .spawn plan => h.spawn plan now
  | .cancel => h.trigger now
  | .await (some _) delay => h.trigger (now + delay)
  | .await none _ | .advance _ => h

/-- The instants at which the tasks end that ever do. -/
def ends (h : History) : List Nat := h.spawned.filterMap (·.endsAt h.cancelledAt?)

end History

namespace Session

/-- The history of a session after further steps. -/
def history (h : History) (s : Session) : List Step → History
  | [] => h
  | step :: rest =>
    match s.make step with
    | none => h
    | some (_, after) => history (h.record s.tasks.now step) after rest

end Session

/-! ## Ends -/

namespace Spawned

variable {sp : Spawned} {cancelled : Option Nat} {time : Nat}

theorem endsAt_eq_some_iff : sp.endsAt cancelled = some time ↔
    ∃ start ms, sp.startsAt cancelled = some start ∧ sp.plan.sleep = some ms ∧
      time = start + min ms Timer.longest := by
  simp only [endsAt, Option.bind_eq_bind, Option.bind_eq_some_iff, Option.some.injEq]
  constructor
  · rintro ⟨start, hstart, ms, hms, rfl⟩
    exact ⟨start, ms, hstart, hms, rfl⟩
  · rintro ⟨start, ms, hstart, hms, rfl⟩
    exact ⟨start, hstart, ms, hms, rfl⟩

/-- A task that ends without the cancellation ends with it at the same instant. -/
theorem endsAt_of_none (h : sp.endsAt none = some time) (cancelled : Option Nat) :
    sp.endsAt cancelled = some time := by
  by_cases ha : sp.plan.awaitsCancel
  · simp [endsAt, startsAt, ha] at h
  · simpa [endsAt, startsAt, ha] using h

theorem cancelsAt_eq_some_iff :
    sp.cancelsAt = some time ↔ sp.plan.cancels = true ∧ sp.endsAt none = some time := by
  simp [cancelsAt]

/-- A task never ends before it is spawned. -/
theorem born_le (h : sp.endsAt cancelled = some time) : sp.born ≤ time := by
  obtain ⟨start, ms, hstart, _, rfl⟩ := endsAt_eq_some_iff.1 h
  rw [startsAt] at hstart
  split at hstart
  · obtain ⟨c, _, rfl⟩ := Option.map_eq_some_iff.1 hstart
    omega
  · obtain rfl := Option.some.inj hstart
    omega

/-- A task that waits for the cancellation does not end before it. -/
theorem cancelled_le {c : Nat} (ha : sp.plan.awaitsCancel = true)
    (h : sp.endsAt (some c) = some time) : c ≤ time := by
  obtain ⟨start, ms, hstart, _, rfl⟩ := endsAt_eq_some_iff.1 h
  simp only [startsAt, ha, if_true, Option.map_some, Option.some.injEq] at hstart
  omega

end Spawned

namespace History

variable {h : History} {time : Nat}

theorem mem_cancellations : time ∈ h.cancellations ↔
    time ∈ h.triggers ∨
      ∃ sp ∈ h.spawned, sp.plan.cancels = true ∧ sp.endsAt none = some time := by
  simp only [cancellations, List.mem_append, List.mem_filterMap, Spawned.cancelsAt_eq_some_iff]

theorem cancelledAt?_eq_some_iff :
    h.cancelledAt? = some time ↔ time ∈ h.cancellations ∧ ∀ c ∈ h.cancellations, time ≤ c :=
  List.min?_eq_some_iff

theorem cancellations_trigger (c : Nat) :
    time ∈ (h.trigger c).cancellations ↔ time ∈ h.cancellations ∨ time = c := by
  simp only [mem_cancellations, trigger, List.mem_append, List.mem_singleton]
  exact or_right_comm

theorem cancellations_spawn (plan : Plan) (now : Nat) :
    time ∈ (h.spawn plan now).cancellations ↔
      time ∈ h.cancellations ∨ (⟨plan, now⟩ : Spawned).cancelsAt = some time := by
  simp only [mem_cancellations, spawn, List.mem_append, List.mem_singleton,
    Spawned.cancelsAt_eq_some_iff]
  constructor
  · rintro (ht | ⟨sp, hsp | rfl, hc⟩)
    · exact .inl (.inl ht)
    · exact .inl (.inr ⟨sp, hsp, hc⟩)
    · exact .inr hc
  · rintro ((ht | ⟨sp, hsp, hc⟩) | hc)
    · exact .inl ht
    · exact .inr ⟨sp, .inl hsp, hc⟩
    · exact .inr ⟨_, .inr rfl, hc⟩

end History

end FaultyServer.Shutdown
