import BoundedScene.Time.Clock

/-!
Contract: tasks that take turns on one run queue under one clock.

Owns:
- `Agenda`, the first-come, first-served queue of tasks that can make progress;
- `Turns`, what a world of tasks provides to be run by turns;
- one turn, the run until every task waits, and the passage of time.

A task holds its turn until it has to wait.  Alarms are not stored here: a world
states which of its tasks wait for which millisecond, so that an alarm cannot
outlive its reason.

Does not own: what a task does in its turn.
-/

namespace BoundedScene

/-- The tasks that can make progress, oldest first, and the clock. -/
structure Agenda (Task : Type) where
  ready : List Task := []
  clock : Clock := {}
deriving Repr

namespace Agenda

variable {Task : Type} [DecidableEq Task]

/-- Put a task at the end of the queue, once. -/
def wake (agenda : Agenda Task) (task : Task) : Agenda Task :=
  if task ∈ agenda.ready then agenda
  else { agenda with ready := agenda.ready ++ [task] }

def wakeAll (agenda : Agenda Task) (tasks : List Task) : Agenda Task :=
  tasks.foldl wake agenda

end Agenda

/-- A task that waits for a millisecond. -/
structure Alarm (Task : Type) where
  due : Nat
  owner : Task
deriving DecidableEq, Repr

/-- A world whose tasks take turns on one agenda. -/
class Turns (World : Type) (Task : outParam Type) where
  agenda : World → Agenda Task
  withAgenda : World → Agenda Task → World
  /-- What one task does in its turn. -/
  resume : Task → World → World
  /-- The alarms that are armed. -/
  alarms : World → List (Alarm Task)
  /-- Turns after which a world is left as it is, even if some task is still
  ready.  A world whose tasks keep waking one another never comes to rest. -/
  allowance : World → Nat

namespace Turns

variable {World Task : Type} [DecidableEq Task] [Turns World Task]

def clock (world : World) : Clock :=
  (agenda world).clock

def withClock (world : World) (clock : Clock) : World :=
  withAgenda world { agenda world with clock }

def wakeAll (world : World) (tasks : List Task) : World :=
  withAgenda world ((agenda world).wakeAll tasks)

/-- The owners of the alarms that are due at the clock, earliest alarm first. -/
def dueOwners (world : World) : List Task :=
  let due := (alarms world).filter fun alarm => (clock world).isDue alarm.due
  (due.mergeSort fun left right => decide (left.due ≤ right.due)).map Alarm.owner

/-- Move the clock to an instant and wake whoever waited for it. -/
def reach (instant : Nat) (world : World) : World :=
  let world := withClock world ((clock world).reach instant)
  wakeAll world (dueOwners world)

/-- One turn: the oldest ready task resumes.  When no task is ready, time that
passed during a turn is noticed; when there is none either, the world rests. -/
def turn? (world : World) : Option World :=
  match (agenda world).ready with
  | task :: later =>
      some (resume task (withAgenda world { agenda world with ready := later }))
  | [] => if (clock world).isBehind then some (reach (clock world).now world) else none

/-- At most `turns` turns. -/
def run : Nat → World → World
  | 0, world => world
  | turns + 1, world =>
      match turn? world with
      | none => world
      | some next => run turns next

/-- Run until every task waits.  No time passes but what tasks let pass. -/
def settle (world : World) : World :=
  run (allowance world) world

/-- The earliest alarm that has not been noticed and is due by an instant. -/
def nextAlarm? (target : Nat) (world : World) : Option Nat :=
  let pending := (alarms world).filterMap fun alarm =>
    if (clock world).noticed < alarm.due ∧ alarm.due * Span.nanosecondsPerMillisecond ≤ target
    then some alarm.due
    else none
  pending.min?

/-- Go from alarm to alarm, settling after each, until none is due by `target`.
Every jump notices at least one millisecond, so as many jumps as there are
milliseconds suffice. -/
def followAlarms (target : Nat) : Nat → World → World
  | 0, world => world
  | jumps + 1, world =>
      match nextAlarm? target world with
      | none => world
      | some due =>
          followAlarms target jumps (settle (reach (due * Span.nanosecondsPerMillisecond) world))

/-- Let time pass: settle, go from alarm to alarm up to the target, settle. -/
def elapse (length : Span) (world : World) : World :=
  let world := settle world
  let target := (clock world).now + length.nanoseconds
  let milliseconds := target / Span.nanosecondsPerMillisecond - (clock world).noticed
  settle (reach target (followAlarms target milliseconds world))

end Turns

end BoundedScene
