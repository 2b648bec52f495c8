import BoundedScene.SceneError

/-!
Contract: the control surface that a supervised loop shares with its handles.

Owns:
- the two requests a handle can make, stop and kill;
- the two announcements of the loop, that it concludes and that it is finished;
- which error becomes terminal, and the result that waiting handles obtain.

Does not own: who waits for what, and the loop itself.
-/

namespace BoundedScene.Supervision

/-- What a loop and its handles know of each other.

- `stopRequested`: some handle asked the loop to stop;
- `ending`: shutdown has begun, on request or by the loop itself;
- `concluded`: the loop announced that it ends on its own;
- `killed`: the first error that a handle made terminal;
- `outcome`: the stored terminal result;
- `lost`: the task was destroyed before a result was stored. -/
structure Control (ε : Type) where
  stopRequested : Bool := false
  ending : Bool := false
  concluded : Bool := false
  killed : Option ε := none
  outcome : Option (Except ε Unit) := none
  lost : Bool := false

namespace Control

variable {ε : Type}

def isFinished (control : Control ε) : Bool :=
  control.outcome.isSome

/-- Ask for a graceful stop. -/
def requestStop (control : Control ε) : Control ε :=
  { control with stopRequested := true, ending := true }

/-- The loop ends on its own: from now on its own result stands. -/
def conclude (control : Control ε) : Control ε :=
  { control with concluded := true, ending := true }

/-- Whether a kill would be recorded: none came before it, and the loop neither
concluded on its own nor finished. -/
def acceptsKill (control : Control ε) : Bool :=
  control.killed.isNone && !control.concluded && !control.isFinished

/-- Ask for a stop and record an error as terminal, if one is still accepted. -/
def kill (control : Control ε) (error : ε) : Control ε :=
  { control.requestStop with
    killed := if control.acceptsKill then some error else control.killed }

/-- The terminal result of a loop that returned `own`: a recorded error
dominates it. -/
def resolve (control : Control ε) (own : Except ε Unit) : Except ε Unit :=
  match control.killed with
  | some error => .error error
  | none => own

/-- The loop returned: store the terminal result. -/
def finish (control : Control ε) (own : Except ε Unit) : Control ε :=
  { control with ending := true, outcome := some (control.resolve own) }

/-- The task is destroyed.  A stored result is not lost. -/
def lose (control : Control ε) : Control ε :=
  { control with lost := control.lost || !control.isFinished }

/-- The result that a waiting handle obtains, once there is one.  Without a
stored result, the loss of the task is reported as `abandoned`. -/
def result? (control : Control ε) (abandoned : ε) : Option (Except ε Unit) :=
  match control.outcome with
  | some outcome => some outcome
  | none => if control.lost then some (.error abandoned) else none

end Control

end BoundedScene.Supervision
