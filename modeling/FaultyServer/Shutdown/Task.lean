import FaultyServer.Timer

/-!
# Tracked tasks

The tasks that a graceful shutdown waits for, on a clock of whole milliseconds. A task may first
wait for the cancellation, then sleeps or never ends, and may itself cancel when it ends. A task that
is able to go on stands in a queue, which is worked off before time passes: `Tasks.settle`.
-/

namespace FaultyServer.Shutdown

/-- What a task does. -/
structure Plan where
  name : String
  /-- Whether it first waits for the cancellation. -/
  awaitsCancel : Bool
  /-- How many milliseconds it then sleeps; without a number it never ends. -/
  sleep : Option Nat
  /-- Whether it cancels when it ends. -/
  cancels : Bool
  deriving DecidableEq

/-- How far a task has come. -/
inductive Phase
  /-- In the queue, before its first move. -/
  | ready
  /-- Waiting for the cancellation. -/
  | waiting
  /-- In the queue, after the cancellation. -/
  | resumed
  /-- Asleep until an instant. -/
  | asleep (due : Nat)
  /-- In the queue, after its sleep. -/
  | woken
  /-- Never to end. -/
  | stuck
  | ended
  deriving DecidableEq

/-- A task and how far it has come. -/
structure Task where
  plan : Plan
  phase : Phase
  deriving DecidableEq

/-- The cancellation lets a task go on that waits for it. -/
def Task.resume (task : Task) : Task :=
  if task.phase = .waiting then { task with phase := .resumed } else task

/-- The tasks by their numbers, the clock, and whether the cancellation has happened. -/
structure Tasks where
  now : Nat
  isCancelled : Bool
  tasks : List Task
  /-- The numbers of the tasks that are able to go on. -/
  queue : List Nat
  /-- The numbers of the tasks that wait for the cancellation, in the order in which they came. -/
  waiters : List Nat
  /-- The numbers of the tasks that sleep and when they wake, in the order in which they lay
  down. -/
  sleepers : List (Nat × Nat)
  /-- The numbers of the tasks that have ended, in the order of their ends. -/
  done : List Nat

namespace Tasks

/-- No tasks. -/
def empty : Tasks := ⟨0, false, [], [], [], [], []⟩

/-- Whether every task has ended. -/
def allEnded (t : Tasks) : Bool := t.tasks.all (·.phase == .ended)

/-- Says how far a task has come. -/
def setPhase (t : Tasks) (id : Nat) (phase : Phase) : Tasks :=
  { t with tasks := t.tasks.modify id fun task => { task with phase := phase } }

/-- Adds a task to the queue. -/
def spawn (t : Tasks) (plan : Plan) : Tasks :=
  { t with tasks := t.tasks ++ [⟨plan, .ready⟩], queue := t.queue ++ [t.tasks.length] }

/-- Cancels; the tasks that wait for it join the queue. -/
def cancel (t : Tasks) : Tasks :=
  if t.isCancelled then t
  else
    { t with
      isCancelled := true
      tasks := t.tasks.map Task.resume
      queue := t.queue ++ t.waiters
      waiters := [] }

/-- Ends a task; the last thing it does is to cancel. -/
def finish (t : Tasks) (id : Nat) (plan : Plan) : Tasks :=
  let t := if plan.cancels then t.cancel else t
  { t.setPhase id .ended with done := t.done ++ [id] }

/-- Lets a task go on that does not wait for the cancellation. -/
def proceed (t : Tasks) (id : Nat) (plan : Plan) : Tasks :=
  match plan.sleep with
  | none => t.setPhase id .stuck
  | some 0 => t.finish id plan
  | some ms =>
    let due := t.now + min ms Timer.longest
    { t.setPhase id (.asleep due) with sleepers := t.sleepers ++ [(id, due)] }

/-- Lets a task from the queue make its move. -/
def move (t : Tasks) (id : Nat) : Tasks :=
  match t.tasks[id]? with
  | none => t
  | some ⟨plan, .ready⟩ =>
    if plan.awaitsCancel && !t.isCancelled then
      { t.setPhase id .waiting with waiters := t.waiters ++ [id] }
    else t.proceed id plan
  | some ⟨plan, .resumed⟩ => t.proceed id plan
  | some ⟨plan, .woken⟩ => t.finish id plan
  | some _ => t

/-- Works off the queue; a task comes into it at most three times, which bounds `fuel`. -/
def settleWith : Nat → Tasks → Tasks
  | 0, t => t
  | fuel + 1, t =>
    match t.queue with
    | [] => t
    | id :: queue => settleWith fuel ({ t with queue := queue }.move id)

/-- Works off the queue. -/
def settle (t : Tasks) : Tasks := settleWith (3 * t.tasks.length) t

/-- When the next task wakes. -/
def nextWake? (t : Tasks) : Option Nat := (t.sleepers.map (·.2)).min?

/-- Moves the clock; the tasks whose sleep is over join the queue. -/
def moveTo (t : Tasks) (time : Nat) : Tasks :=
  let woken := (t.sleepers.filter (·.2 ≤ time)).map (·.1)
  let t := { t with
    now := max t.now time
    queue := t.queue ++ woken
    sleepers := t.sleepers.filter fun s => !decide (s.2 ≤ time) }
  woken.foldl (fun t id => t.setPhase id .woken) t

/-- Lets time pass up to an instant, waking by waking; `fuel` bounds their number. -/
def passWith (stop : Nat) : Nat → Tasks → Tasks
  | 0, t => (t.moveTo stop).settle
  | fuel + 1, t =>
    match t.nextWake? with
    | none => (t.moveTo stop).settle
    | some time =>
      if time ≤ stop then passWith stop fuel (t.moveTo time).settle
      else (t.moveTo stop).settle

/-- Lets this many milliseconds pass. A task sleeps at most once, so their number bounds the
wakings. -/
def pass (t : Tasks) (ms : Nat) : Tasks :=
  passWith (t.now + min ms Timer.longest) t.tasks.length t

end Tasks

end FaultyServer.Shutdown
