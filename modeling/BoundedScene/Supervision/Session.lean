import BoundedScene.Agenda
import BoundedScene.Supervision.Control
import BoundedScene.Supervision.LoopScript

/-!
Contract: a supervised loop together with the calls made on its handles.

Owns:
- `Session`, the loop, its control surface, its log, and the calls;
- the turn of the loop and the turn of a call;
- what a caller of the session can do, and the report of each step.

A call is a task of its own and is known by the order of its creation.

Does not own: the run queue, the clock, and the rules of the control surface.
-/

namespace BoundedScene.Supervision

/-- The tasks of a session. -/
inductive Task where
  | loop
  | call (id : Nat)
deriving DecidableEq, Repr

/-- What a call asks of a handle. -/
inductive Request where
  | stop
  | wait
  | kill (message : String)
  /-- Wait until shutdown has begun. -/
  | ending
  /-- Read both flags without waiting. -/
  | look
deriving DecidableEq, Repr

/-- How a call ends. -/
inductive Answer where
  | result (result : Except LoopError Unit)
  /-- Whether the error of a kill was recorded. -/
  | recorded (accepted : Bool)
  | ending
  | flags (isEnding isFinished : Bool)

/-- How far a call has come. -/
inductive Stage where
  | fresh
  | awaitingResult
  | awaitingEnding
  /-- Answered in the given millisecond. -/
  | finished (answer : Answer) (millisecond : Nat)
  /-- Given up before it was answered. -/
  | dropped

structure Call where
  request : Request
  stage : Stage := .fresh

namespace Call

def isUnfinished (call : Call) : Bool :=
  match call.stage with
  | .finished _ _ => false
  | .dropped => false
  | _ => true

def awaitsResult (call : Call) : Bool :=
  match call.stage with
  | .awaitingResult => true
  | _ => false

def awaitsEnding (call : Call) : Bool :=
  match call.stage with
  | .awaitingEnding => true
  | _ => false

end Call

/-- The loop's task: at its remaining actions, of which the first may have a
running alarm; returned; or destroyed. -/
inductive LoopTask (Mark : Type) where
  | running (remaining : List (LoopAction Mark)) (alarm : Option Nat)
  | returned
  | lost

/-- A supervised loop and the calls on its handles. -/
structure Session (Mark : Type) where
  agenda : Agenda Task := { ready := [.loop] }
  control : Control LoopError := {}
  loop : LoopTask Mark
  /-- Permits that the loop can take at a gate. -/
  permits : Nat := 0
  log : List (LogEntry Mark) := []
  calls : List Call := []

namespace Session

variable {Mark : Type}

/-- A session whose loop is about to run a script. -/
def start (script : List (LoopAction Mark)) : Session Mark :=
  { loop := .running script none }

def clock (session : Session Mark) : Clock :=
  session.agenda.clock

def wakeAll (session : Session Mark) (tasks : List Task) : Session Mark :=
  { session with agenda := session.agenda.wakeAll tasks }

/-- The calls that satisfy a test, as tasks, oldest first. -/
def callTasks (session : Session Mark) (test : Call → Bool) : List Task :=
  ((List.range session.calls.length).filter fun id => session.calls[id]?.any test).map Task.call

/-- The tasks that go on once shutdown has begun. -/
def endingWatchers (session : Session Mark) : List Task :=
  if session.control.ending then [] else session.callTasks Call.awaitsEnding

/-- The tasks that go on once a stop was requested. -/
def stopWatchers (session : Session Mark) : List Task :=
  (if session.control.stopRequested then [] else [.loop]) ++ session.endingWatchers

/-- The tasks that go on once the terminal result is stored. -/
def resultWatchers (session : Session Mark) : List Task :=
  session.callTasks Call.awaitsResult

/-- Change the control surface and wake the given tasks. -/
def updateControl (session : Session Mark) (control : Control LoopError) (woken : List Task) :
    Session Mark :=
  ({ session with control }).wakeAll woken

def setStage (session : Session Mark) (id : Nat) (stage : Stage) : Session Mark :=
  { session with calls := session.calls.modify id fun call => { call with stage } }

def answer (session : Session Mark) (id : Nat) (answer : Answer) : Session Mark :=
  session.setStage id (.finished answer session.clock.millisecond)

def record (session : Session Mark) (entry : LogEntry Mark) : Session Mark :=
  { session with log := session.log ++ [entry] }

/-- The loop returned `own`; every waiting call can go on. -/
def finish (session : Session Mark) (own : Except LoopError Unit) : Session Mark :=
  ({ session with loop := .returned }).updateControl (session.control.finish own)
    (session.endingWatchers ++ session.resultWatchers)

/-- The loop waits at the first of its remaining actions. -/
def park (session : Session Mark) (remaining : List (LoopAction Mark)) (alarm : Option Nat) :
    Session Mark :=
  { session with loop := .running remaining alarm }

/-- Run actions until one has to wait or the loop returns.  `alarm` belongs to
the first action; its end counts as a return without an error. -/
def proceed : List (LoopAction Mark) → Option Nat → Session Mark → Session Mark
  | [], _, session => session.finish (.ok ())
  | action :: rest, alarm, session =>
      match action with
      | .stopped =>
          if session.control.stopRequested then proceed rest none session
          else session.park (action :: rest) none
      | .sleep length =>
          let due := alarm.getD (session.clock.deadline length)
          if session.clock.isDue due then proceed rest none session
          else session.park (action :: rest) (some due)
      | .stoppedOrSleep length =>
          let due := alarm.getD (session.clock.deadline length)
          if session.control.stopRequested then proceed rest none (session.record .stopped)
          else if session.clock.isDue due then proceed rest none (session.record .slept)
          else session.park (action :: rest) (some due)
      | .gate =>
          if 0 < session.permits then
            proceed rest none { session with permits := session.permits - 1 }
          else session.park (action :: rest) none
      | .conclude =>
          proceed rest none
            (session.updateControl session.control.conclude session.endingWatchers)
      | .isStopping =>
          proceed rest none (session.record (.stopping session.control.stopRequested))
      | .mark mark => proceed rest none (session.record (.mark mark))
      | .succeed => session.finish (.ok ())
      | .fail message => session.finish (.error (.failed message))
      | .panic payload => session.finish (.error (.abandoned ⟨payload.describe⟩))

/-- A call waits for the terminal result. -/
def awaitResult (session : Session Mark) (id : Nat) : Session Mark :=
  match session.control.result? (.abandoned Abandonment.dropped) with
  | some result => session.answer id (.result result)
  | none => session.setStage id .awaitingResult

/-- A call waits until shutdown has begun. -/
def awaitEnding (session : Session Mark) (id : Nat) : Session Mark :=
  if session.control.ending then session.answer id .ending
  else session.setStage id .awaitingEnding

/-- The turn of a call. -/
def resumeCall (id : Nat) (session : Session Mark) : Session Mark :=
  match session.calls[id]? with
  | none => session
  | some call =>
      match call.stage, call.request with
      | .fresh, .stop =>
          (session.updateControl session.control.requestStop session.stopWatchers).awaitResult id
      | .fresh, .wait => session.awaitResult id
      | .fresh, .kill message =>
          (session.updateControl (session.control.kill (.failed message))
            session.stopWatchers).answer id (.recorded session.control.acceptsKill)
      | .fresh, .ending => session.awaitEnding id
      | .fresh, .look =>
          session.answer id (.flags session.control.ending session.control.isFinished)
      | .awaitingResult, _ => session.awaitResult id
      | .awaitingEnding, _ => session.awaitEnding id
      | .finished _ _, _ => session
      | .dropped, _ => session

/-- The turn of the loop. -/
def resumeLoop (session : Session Mark) : Session Mark :=
  match session.loop with
  | .running remaining alarm => proceed remaining alarm session
  | _ => session

def resume : Task → Session Mark → Session Mark
  | .loop => resumeLoop
  | .call id => resumeCall id

/-- The alarm of the loop, while it sleeps. -/
def alarms (session : Session Mark) : List (Alarm Task) :=
  match session.loop with
  | .running _ (some due) => [⟨due, .loop⟩]
  | _ => []

/-- Turns that suffice.  Each call takes a few of its own and wakes the loop a few
times. -/
def allowance (session : Session Mark) : Nat :=
  4 * session.agenda.ready.length + 16 * (session.calls.length + 1)

instance : Turns (Session Mark) Task where
  agenda := Session.agenda
  withAgenda session agenda := { session with agenda }
  resume := resume
  alarms := alarms
  allowance := allowance

/-! ## What a caller can do -/

/-- Something done at once, before any task takes its turn. -/
inductive Deed where
  /-- Make a call; it gets the next number. -/
  | call (request : Request)
  /-- Give up a call. -/
  | cancel (id : Nat)
  /-- Add permits at the loop's gate. -/
  | permit (count : Nat)
  /-- Destroy every task. -/
  | dropTasks
deriving DecidableEq, Repr

/-- A step of a caller; each ends with a settled session. -/
inductive Step where
  | deeds (deeds : List Deed)
  | elapse (length : Span)
deriving DecidableEq, Repr

/-- Destroy every task: unfinished calls are given up and the loop is lost. -/
def dropTasks (session : Session Mark) : Session Mark :=
  { session with
    agenda := { session.agenda with ready := [] }
    control := session.control.lose
    loop := match session.loop with
      | .running _ _ => .lost
      | other => other
    calls := session.calls.map fun call =>
      if call.isUnfinished then { call with stage := .dropped } else call }

def act (session : Session Mark) : Deed → Session Mark
  | .call request =>
      let id := session.calls.length
      let call : Call := { request }
      ({ session with calls := session.calls ++ [call] }).wakeAll [.call id]
  | .cancel id =>
      { session with
        calls := session.calls.modify id fun call =>
          if call.isUnfinished then { call with stage := .dropped } else call }
  | .permit count => ({ session with permits := session.permits + count }).wakeAll [.loop]
  | .dropTasks => session.dropTasks

def perform (session : Session Mark) : Step → Session Mark
  | .deeds deeds => Turns.settle (deeds.foldl act session)
  | .elapse length => Turns.elapse length session

/-! ## Reports -/

/-- An answered call. -/
structure Completion where
  id : Nat
  answer : Answer
  millisecond : Nat

/-- What a step brought about. -/
structure Report (Mark : Type) where
  done : List Completion
  log : List (LogEntry Mark)
  ending : Bool
  finished : Bool

/-- The answered calls, oldest call first. -/
def completions (session : Session Mark) : List Completion :=
  session.calls.zipIdx.filterMap fun (call, id) =>
    match call.stage with
    | .finished answer millisecond => some ⟨id, answer, millisecond⟩
    | _ => none

def isAnswered (session : Session Mark) (id : Nat) : Bool :=
  session.completions.any fun completion => completion.id == id

/-- What has come about since an earlier moment of the same session. -/
def reportSince (earlier session : Session Mark) : Report Mark :=
  { done := session.completions.filter fun completion => !earlier.isAnswered completion.id
    log := session.log.drop earlier.log.length
    ending := session.control.ending
    finished := session.control.isFinished }

/-- Perform steps in order and report on each. -/
def performAll : Session Mark → List Step → List (Report Mark) × Session Mark
  | session, [] => ([], session)
  | session, step :: later =>
      let next := session.perform step
      let rest := performAll next later
      (reportSince session next :: rest.1, rest.2)

end Session

end BoundedScene.Supervision
