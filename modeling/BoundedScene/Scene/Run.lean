import BoundedScene.Scene.Serving
import BoundedScene.Scene.Calling

/-!
Contract: a scene as a world of tasks, and what its users do to it.

Owns:
- the turns of a scene, its alarms and its allowance;
- `Deed`, what a user does at once, and `Step`, after which the scene settles.

Does not own: what the users observe.
-/

namespace BoundedScene.Session

variable {V : Type}

def resume : SceneTask → Session V → Session V
  | .backend => resumeBackend
  | .call id => resumeCall id
  | .delivery task => fun session => session.updateDelivery (Delivery.resume task)

/-- The alarms of the backend, then those of the calls. -/
def alarms (session : Session V) : List (Alarm SceneTask) :=
  let deadlines := match session.backend with
    | .serving absolute inactivity => absolute.toList ++ inactivity.toList
    | _ => []
  (deadlines.map fun due => ⟨due, .backend⟩)
    ++ (List.range session.calls.length).filterMap fun id =>
        (session.calls[id]?.bind Call.deadline?).map fun due => ⟨due, .call id⟩

/-- Turns that suffice for the calls and the backend.  Each call takes a few of its
own and wakes the backend a few times. -/
def sceneAllowance (session : Session V) : Nat :=
  16 * session.agenda.ready.length
    + 64 * (session.calls.length + session.mailbox.queued.length + 1)

/-- Turns that suffice for the whole scene, unless its subscribers keep it busy
with their own panics. -/
def allowance (session : Session V) : Nat :=
  let upcoming := session.calls.length + session.props.size + session.mailbox.queued.length + 8
  session.sceneAllowance + session.delivery.allowance upcoming

instance : Turns (Session V) SceneTask where
  agenda := Session.agenda
  withAgenda session agenda := { session with agenda }
  resume := resume
  alarms := alarms
  allowance := allowance

/-! ## Deeds -/

/-- Something done at once, before any task takes its turn. -/
inductive Deed (V : Type) where
  /-- Make a call; it gets the next number. -/
  | call (request : Request V)
  /-- Give up a call. -/
  | cancel (id : Nat)
  /-- Clone a handle; the clone gets the next number. -/
  | clone
  /-- Drop a handle. -/
  | drop (handle : Nat)
  /-- Allow a gated subscriber to take in more events. -/
  | release (lane count : Nat)
  /-- Destroy every task. -/
  | dropTasks

/-- A step of the users; each ends with a settled scene. -/
inductive Step (V : Type) where
  | deeds (deeds : List (Deed V))
  | elapse (length : Span)

/-- Make a call. -/
def makeCall (session : Session V) (request : Request V) : Session V :=
  let id := session.calls.length
  let call : Call V := { request }
  ({ session with calls := session.calls ++ [call] }).wakeCall id

/-- Give up a call.  A command of it that is in the mailbox stays there. -/
def cancel (session : Session V) (id : Nat) : Session V :=
  match session.calls[id]? with
  | none => session
  | some call =>
      if call.isUnfinished then
        (((session.record (.cancelled id)).setStage id .dropped).leaveMailbox id).noteHandles
      else session

/-- Destroy every task.  Unfinished calls are given up, the backend is lost with
its props and its mailbox, and nothing is cleaned up. -/
def dropTasks (session : Session V) : Session V :=
  { session with
    agenda := { session.agenda with ready := [] }
    control := session.control.lose
    mailbox := { session.mailbox.close.1 with queued := [] }
    props := {}
    subscriptions := {}
    backend := if session.backendRuns then .lost else session.backend
    calls := session.calls.map fun call =>
      if call.isUnfinished then { call with stage := .dropped } else call
    delivery := session.delivery.lose }

def act (session : Session V) : Deed V → Session V
  | .call request => session.makeCall request
  | .cancel id => session.cancel id
  | .clone => { session with handles := session.handles ++ [true] }
  | .drop handle => ({ session with handles := session.handles.set handle false }).noteHandles
  | .release lane count => session.updateDelivery fun delivery => delivery.permit lane count
  | .dropTasks => session.dropTasks

def actAll (session : Session V) (deeds : List (Deed V)) : Session V :=
  deeds.foldl act session

/-- Perform a step. -/
def perform (session : Session V) : Step V → Session V
  | .deeds deeds => Turns.settle (session.actAll deeds)
  | .elapse length => Turns.elapse length session

/-- Perform steps in order. -/
def performAll (session : Session V) (steps : List (Step V)) : Session V :=
  steps.foldl perform session

end BoundedScene.Session
