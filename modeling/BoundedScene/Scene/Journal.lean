import BoundedScene.Scene.Call

/-!
Contract: the journal that a scene keeps of its run.

Owns:
- `Happening`, everything that can happen to the calls, the commands, the
  cleanups and the end of a scene;
- the processed commands and the cleanups run, which are read off the journal.

The journal only grows.  Nothing that a scene does depends on what is in it.

Does not own: when something happens.
-/

namespace BoundedScene

/-- A cleanup that was run, with the phase it observed if it did. -/
structure CleanupRun (V : Type) where
  key : String
  value : V
  cleanup : Cleanup
  observed : Option Phase

namespace CleanupRun

variable {V : Type}

def outcome (run : CleanupRun V) : CleanupOutcome :=
  run.cleanup.outcome

/-- The prop whose cleanup was run. -/
def prop (run : CleanupRun V) : StoredProp V :=
  { key := run.key, value := run.value, cleanup := some run.cleanup }

end CleanupRun

/-- A command that was processed, with its response. -/
structure Processed (V : Type) where
  caller : Nat
  command : Command V
  response : Response V

/-- The envelope that a processed command came in. -/
def Processed.envelope {V : Type} (entry : Processed V) : Envelope V :=
  { caller := entry.caller, command := entry.command }

/-- Something that happened in a scene. -/
inductive Happening (V : Type) where
  /-- The backend had its first turn. -/
  | opened
  /-- A call had its first turn. -/
  | started (id : Nat)
  /-- A command entered the mailbox. -/
  | entered (envelope : Envelope V)
  /-- A command was processed. -/
  | processed (entry : Processed V)
  /-- A cleanup was run. -/
  | cleaned (run : CleanupRun V)
  /-- A caller took the reply to its command. -/
  | replied (id : Nat) (response : Response V)
  /-- A caller turned from its reply or its signal to the terminal result. -/
  | overtaken (id : Nat)
  /-- A call was answered. -/
  | answered (id : Nat) (answer : Answer V)
  /-- A call was given up. -/
  | cancelled (id : Nat)
  /-- Some handle asked for a graceful stop. -/
  | stopRequested
  /-- An abort was executed, recorded as terminal or not. -/
  | aborted (cause : Cause)
  /-- The backend ends on its own: at a deadline, or else because no handle is
  left. -/
  | concluded (deadline : Option (TimeoutKind × Span))
  /-- The terminal result was stored. -/
  | ended (result : Except SceneError Unit)

namespace Happening

variable {V : Type}

def processed? : Happening V → Option (Processed V)
  | .processed entry => some entry
  | _ => none

def cleaned? : Happening V → Option (CleanupRun V)
  | .cleaned run => some run
  | _ => none

end Happening

/-- An entry of the journal: what happened, and at which instant. -/
structure Record (V : Type) where
  instant : Nat
  happening : Happening V

end BoundedScene
