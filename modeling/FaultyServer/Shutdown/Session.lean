import FaultyServer.Log.Event
import FaultyServer.Shutdown.Task

/-!
# Graceful shutdown

A graceful shutdown waits for its trigger, a signal or the cancellation, and then for the tracked
tasks, but no longer than its timeout. The trigger cancels, if the cancellation was not the trigger
itself. At the very end of the timeout it is over, even for a task that ends at that instant.

* `Session.await` is the shutdown itself; it has no result if no trigger ever comes.
* `Session.make` runs one step of a session and then lets every task make its moves.
-/

namespace FaultyServer.Shutdown

/-- How a shutdown ends. -/
inductive Outcome
  /-- Every task has ended. -/
  | completed
  /-- Some task has not ended in time. -/
  | timedOut
  deriving DecidableEq, Repr

/-- The message for a shutdown that has timed out. -/
def timeoutMessage : String := "graceful shutdown timeout exceeded"

/-- The usual timeout, in milliseconds. -/
def defaultTimeout : Nat := 10000

/-- What is logged at the end of a shutdown. -/
def Outcome.event (timeout : Nat) : Outcome → Event
  | .completed => .shutDown
  | .timedOut => .shutdownTimedOut (timeout / 1000)

/-- A session: the timeout of its shutdowns in milliseconds, its tasks, and what has been logged. -/
structure Session where
  timeout : Nat
  tasks : Tasks
  events : List Event

/-- A step of a session. -/
inductive Step
  /-- A task is tracked from now on. -/
  | spawn (plan : Plan)
  | cancel
  /-- Milliseconds pass. -/
  | advance (ms : Nat)
  /-- A shutdown is awaited; a signal may come after so many milliseconds, if it still waits for its
  trigger then. -/
  | await (signal : Option Signal) (delay : Nat := 0)

namespace Session

/-- A session without tasks. -/
def fresh (timeout : Nat) : Session := ⟨timeout, .empty, []⟩

/-- Adds an event to the log. -/
def log (s : Session) (event : Event) : Session := { s with events := s.events ++ [event] }

/-- Lets time pass until the cancellation, which only a task can bring about, or until an instant if
that comes first. There is no result if neither comes. -/
def untilCancelled (stop : Option Nat) : Nat → Tasks → Option Tasks
  | 0, _ => none
  | fuel + 1, t =>
    if t.isCancelled then some t
    else
      match t.nextWake?.filter fun time => stop.all (time ≤ ·) with
      | none => stop.map t.moveTo
      | some time => untilCancelled stop fuel (t.moveTo time).settle

/-- Lets time pass until every task has ended or the deadline has come. -/
def untilEnded (deadline : Nat) : Nat → Tasks → Outcome × Tasks
  | 0, t => (.timedOut, t.moveTo deadline)
  | fuel + 1, t =>
    if t.allEnded then (.completed, t)
    else
      match t.nextWake? with
      | none => (.timedOut, t.moveTo deadline)
      | some time =>
        if time < deadline then untilEnded deadline fuel (t.moveTo time).settle
        else (.timedOut, t.moveTo deadline)

/-- Waits for the trigger of a shutdown, which may be a signal after some milliseconds. -/
def trigger (s : Session) (signal : Option Signal) (delay : Nat := 0) : Option Session :=
  let stop := signal.map fun _ => s.tasks.now + delay
  (untilCancelled stop (s.tasks.tasks.length + 1) s.tasks).bind fun tasks =>
    let s := { s with tasks := tasks }
    if tasks.isCancelled then some (s.log .cancelled)
    else signal.map fun signal => { s with tasks := tasks.cancel }.log (.signalled signal)

/-- Lets time pass until every task has ended or the timeout is over. Without any time only tasks
that have already ended are in time. -/
def awaitEnds (timeout : Nat) (t : Tasks) : Outcome × Tasks :=
  let timeout := min timeout Timer.longest
  if t.allEnded then (.completed, t)
  else if timeout = 0 then (.timedOut, t)
  else untilEnded (t.now + timeout) (t.tasks.length + 1) t.settle

/-- Waits for the tasks of a shutdown that has been triggered. -/
def awaitTasks (s : Session) : Outcome × Session :=
  let ended := awaitEnds s.timeout s.tasks
  (ended.1, { s with tasks := ended.2 }.log (ended.1.event s.timeout))

/-- Awaits a shutdown. -/
def await (s : Session) (signal : Option Signal) (delay : Nat := 0) : Option (Outcome × Session) :=
  (s.trigger signal delay).map awaitTasks

/-- Lets every task make its moves. -/
def settle (s : Session) : Session := { s with tasks := s.tasks.settle }

/-- Runs a step. A shutdown whose trigger never comes leaves nothing to go on with. -/
def make (s : Session) : Step → Option (Option Outcome × Session)
  | .spawn plan => some (none, { s with tasks := s.tasks.spawn plan }.settle)
  | .cancel => some (none, { s with tasks := s.tasks.cancel }.settle)
  | .advance ms => some (none, { s with tasks := s.tasks.pass ms }.settle)
  | .await signal delay =>
    (s.await signal delay).map fun (outcome, s) => (some outcome, s.settle)

/-- Runs steps in their order. -/
def run (s : Session) : List Step → Option Session
  | [] => some s
  | step :: rest => (s.make step).bind fun (_, s) => s.run rest

/-- The names of the tasks that have ended, in the order of their ends. -/
def done (s : Session) : List String :=
  s.tasks.done.filterMap fun id => (s.tasks.tasks[id]?).map (·.plan.name)

end Session

end FaultyServer.Shutdown
