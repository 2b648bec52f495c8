import BoundedScene.Agenda
import BoundedScene.Settings
import BoundedScene.Scene.Journal
import BoundedScene.Scene.Mailbox
import BoundedScene.Scene.Subscriptions
import BoundedScene.Subscriber.Delivery
import BoundedScene.Supervision.Control

/-!
Contract: the state of a scene with its callers, its backend and its
subscribers.

Owns:
- `Session`, everything that a run of a scene changes;
- who is woken by which change, and which changes end the scene.

Nothing is stored that follows from something else: whether a handle is left,
who waits for what and when an alarm is due are read off the calls and tables.

Does not own: the turns of the tasks.
-/

namespace BoundedScene

open BoundedScene.Supervision (Control)

/-- The tasks of a scene. -/
inductive SceneTask where
  | backend
  | call (id : Nat)
  | delivery (task : DeliveryTask)
deriving DecidableEq, Repr

/-- State of the backend's task. -/
inductive Backend where
  /-- Has not had a turn. -/
  | fresh
  /-- Serves commands; its deadlines are due in the given milliseconds. -/
  | serving (absolute inactivity : Option Nat)
  /-- Returned. -/
  | returned
  /-- The task was destroyed. -/
  | lost
deriving DecidableEq, Repr

/-- A scene in the middle of a run.

- `handles`: which of the handles given out so far are held by their owner;
- `calls`: the calls made so far, known by the order of their creation;
- `journal`: what has happened so far, oldest first;
- `delivery`: the bus of the scene and its subscribers. -/
structure Session (V : Type) where
  agenda : Agenda SceneTask := {}
  inactivity : Option Span := none
  absolute : Option Span := none
  visiting : VisitingOrder V
  control : Control SceneError := {}
  phase : Phase := .active
  mailbox : Mailbox (Envelope V)
  props : PropTable V := {}
  subscriptions : Subscriptions := {}
  backend : Backend := .fresh
  handles : List Bool := [true]
  calls : List (Call V) := []
  journal : List (Record V) := []
  delivery : Delivery

namespace Session

variable {V : Type}

/-- A scene about to start, if its bus, mailbox and queues can have the
capacities asked for.  The workers take the first turns, then the backend, then
the courier. -/
def create? (settings : Settings) (profiles : List Profile)
    (visiting : VisitingOrder V := VisitingOrder.oldestFirst) : Option (Session V) :=
  if decide (settings.commandSlots ≤ Mailbox.largestCapacity)
      && profiles.all fun profile => decide (profile.capacity ≤ Profile.largestCapacity) then
    (Bus.create? settings.busSlots).map fun feed =>
      let delivery : Delivery :=
        { feed
          lanes := profiles.map fun profile => { profile }
          courier := if profiles.isEmpty then .finished else .forwarding }
      let courier := if profiles.isEmpty then [] else [SceneTask.delivery .courier]
      { agenda :=
          { ready := delivery.workerTasks.map SceneTask.delivery ++ .backend :: courier }
        inactivity := settings.inactivityTimeout
        absolute := settings.absoluteTimeout
        visiting
        mailbox := { capacity := settings.commandSlots }
        delivery }
  else none

def clock (session : Session V) : Clock :=
  session.agenda.clock

def wakeAll (session : Session V) (tasks : List SceneTask) : Session V :=
  { session with agenda := session.agenda.wakeAll tasks }

def wakeCall (session : Session V) (id : Nat) : Session V :=
  session.wakeAll [.call id]

/-- The calls that satisfy a test, as tasks, oldest first. -/
def callTasks (session : Session V) (test : Call V → Bool) : List SceneTask :=
  ((List.range session.calls.length).filter fun id => session.calls[id]?.any test).map
    SceneTask.call

/-- The tasks that go on once the scene starts to end. -/
def endingWatchers (session : Session V) : List SceneTask :=
  if session.control.ending then [] else session.callTasks Call.watchesEnding

/-- The tasks that go on once a stop was requested. -/
def stopWatchers (session : Session V) : List SceneTask :=
  (if session.control.stopRequested then [] else [.backend]) ++ session.endingWatchers

/-- The tasks that go on once the terminal result is stored. -/
def resultWatchers (session : Session V) : List SceneTask :=
  session.callTasks Call.watchesResult

def modifyCall (session : Session V) (id : Nat) (change : Call V → Call V) : Session V :=
  { session with calls := session.calls.modify id change }

/-- Change the delivery and put the tasks it woke on the agenda. -/
def updateDelivery (session : Session V) (change : Delivery → Delivery) : Session V :=
  let delivery := change session.delivery
  { session with
    agenda := session.agenda.wakeAll (delivery.woken.map SceneTask.delivery)
    delivery := { delivery with woken := [] } }

/-- Publish an event on the bus of the scene. -/
def publish (session : Session V) (event : Event) : Session V :=
  session.updateDelivery fun delivery => delivery.publish event

/-! ## The journal -/

/-- Note in the journal what happens now. -/
def record (session : Session V) (happening : Happening V) : Session V :=
  { session with
    journal := session.journal ++ [{ instant := session.clock.now, happening }] }

/-- What has happened so far, oldest first. -/
def happenings (session : Session V) : List (Happening V) :=
  session.journal.map Record.happening

/-- The processed commands, oldest first. -/
def ledger (session : Session V) : List (Processed V) :=
  session.happenings.filterMap Happening.processed?

/-- The cleanups run so far, oldest first. -/
def cleanups (session : Session V) : List (CleanupRun V) :=
  session.happenings.filterMap Happening.cleaned?

/-! ## Handles -/

/-- Whether any handle is left: one held by its owner, by an unfinished call, or
by a cleanup that has not run. -/
def anyHandle (session : Session V) : Bool :=
  session.handles.any id
    || session.calls.any Call.isUnfinished
    || session.props.holdsHandle
    || session.mailbox.queued.any fun envelope => envelope.command.holdsHandle

/-- A handle was given up: without any left, the backend goes on. -/
def noteHandles (session : Session V) : Session V :=
  if session.anyHandle then session else session.wakeAll [.backend]

/-- Whether the task of the backend exists. -/
def backendRuns (session : Session V) : Bool :=
  match session.backend with
  | .fresh => true
  | .serving _ _ => true
  | _ => false

/-- Whether nobody can publish on the bus any more. -/
def busClosed (session : Session V) : Bool :=
  !session.anyHandle && !session.backendRuns && session.delivery.isReleased

/-! ## The ways in which a scene starts to end -/

/-- Change the control surface and wake the given tasks. -/
def updateControl (session : Session V) (control : Control SceneError)
    (woken : List SceneTask) : Session V :=
  ({ session with control }).wakeAll woken

/-- Ask for a graceful stop. -/
def requestStop (session : Session V) : Session V :=
  (session.record .stopRequested).updateControl session.control.requestStop
    session.stopWatchers

/-- Abort the scene.  The request is published if its error was recorded. -/
def abort (session : Session V) (cause : Cause) : Session V :=
  let error := SceneError.aborted cause
  let killed := (session.record (.aborted cause)).updateControl (session.control.kill error)
    session.stopWatchers
  if session.control.acceptsKill then
    killed.publish ((Event.plain .abortRequested).withReason error.message)
  else killed

/-- The backend ends on its own, at a deadline if one is named. -/
def conclude (session : Session V) (deadline : Option (TimeoutKind × Span)) : Session V :=
  (session.record (.concluded deadline)).updateControl session.control.conclude
    session.endingWatchers

/-- The result that a waiting call obtains, once there is one. -/
def result? (session : Session V) : Option (Except SceneError Unit) :=
  session.control.result? (.ofAbandonment Abandonment.dropped)

/-! ## Answers -/

def setStage (session : Session V) (id : Nat) (stage : Stage V) : Session V :=
  session.modifyCall id fun call => { call with stage }

/-- Finish a call; it gives up its handle. -/
def answer (session : Session V) (id : Nat) (answer : Answer V) : Session V :=
  ((session.record (.answered id answer)).setStage id
    (.finished answer session.clock.millisecond)).noteHandles

/-- Deliver the reply to a command, if its caller still listens. -/
def respond (session : Session V) (id : Nat) (reply : ReplySlot V) : Session V :=
  match session.calls[id]? with
  | none => session
  | some call =>
      if call.awaitsReply then
        (session.modifyCall id fun call => { call with reply }).wakeCall id
      else session

/-- Deliver a signal, or the news that there will be none, to a waiter. -/
def notify (signal : SignalSlot) (session : Session V) (id : Nat) : Session V :=
  match session.calls[id]? with
  | none => session
  | some call =>
      if call.listens then
        (session.modifyCall id fun call => { call with signal }).wakeCall id
      else session

/-- Whether a waiter would take notice of a signal. -/
def listens (session : Session V) (id : Nat) : Bool :=
  session.calls[id]?.any Call.listens

end Session

end BoundedScene
