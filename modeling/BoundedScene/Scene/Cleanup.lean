import BoundedScene.Panic
import BoundedScene.SceneError

/-!
Contract: the cleanups that callers bind to the props they store.

Owns:
- `Cleanup`, what a cleanup does to the scene and how it comes out;
- the error that a failing or panicking cleanup turns into.

Does not own: when a cleanup runs.
-/

namespace BoundedScene

/-- What a cleanup does before it comes to its end. -/
inductive CleanupAct where
  | nothing
  /-- Abort the scene. -/
  | abort (cause : Cause)
  /-- Read the phase of the scene. -/
  | observe
  /-- Let time pass. -/
  | pass (time : Span)
deriving Repr

/-- How a cleanup comes out. -/
inductive CleanupOutcome where
  | succeed
  | fail (cause : Cause)
  | panic (payload : PanicPayload)
deriving Repr

/-- A cleanup, run at most once, when its prop is removed. -/
structure Cleanup where
  act : CleanupAct := .nothing
  outcome : CleanupOutcome := .succeed
deriving Repr

namespace CleanupOutcome

/-- The cause of a failure; a panic counts as one and is described in words. -/
def cause? : CleanupOutcome → Option Cause
  | .succeed => none
  | .fail cause => some cause
  | .panic payload => some (.foreign ("cleanup panicked: " ++ payload.describe))

def isFailure (outcome : CleanupOutcome) : Bool :=
  outcome.cause?.isSome

end CleanupOutcome

namespace Cleanup

/-- A cleanup that calls on the scene owns a handle of it until it has run. -/
def holdsHandle (cleanup : Cleanup) : Bool :=
  match cleanup.act with
  | .abort _ => true
  | .observe => true
  | _ => false

/-- The error reported for the prop under `key`. -/
def failure? (cleanup : Cleanup) (key : String) : Option SceneError :=
  cleanup.outcome.cause?.map (SceneError.cleanupFailed key)

end Cleanup

end BoundedScene
