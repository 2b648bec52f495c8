import BoundedScene.Panic
import BoundedScene.Time.Span
import BoundedScene.SceneError

/-!
Contract: the scripts that stand for the functions of supervised loops.

Owns:
- the actions a loop can take and the entries it leaves in its log;
- the errors such a loop ends with.

Does not own: how a script is run.
-/

namespace BoundedScene.Supervision

/-- Why a scripted loop ended with an error. -/
inductive LoopError where
  | failed (message : String)
  | abandoned (abandonment : Abandonment)
deriving DecidableEq, Repr

/-- One action of a loop. -/
inductive LoopAction (Mark : Type) where
  /-- Wait for a stop request. -/
  | stopped
  /-- Wait for a length of time. -/
  | sleep (length : Span)
  /-- Wait for a stop request or a length of time and log which came first. -/
  | stoppedOrSleep (length : Span)
  /-- Wait for a permit and take it. -/
  | gate
  /-- Announce that the loop ends on its own. -/
  | conclude
  /-- Log whether a stop was requested. -/
  | isStopping
  | mark (mark : Mark)
  /-- Return without an error. -/
  | succeed
  /-- Return an error. -/
  | fail (message : String)
  | panic (payload : PanicPayload)
deriving DecidableEq, Repr

/-- What a loop leaves in its log. -/
inductive LogEntry (Mark : Type) where
  | stopped
  | slept
  | stopping (requested : Bool)
  | mark (mark : Mark)
deriving DecidableEq, Repr

end BoundedScene.Supervision
