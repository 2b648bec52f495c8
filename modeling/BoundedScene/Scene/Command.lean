import BoundedScene.Scene.PropTable

/-!
Contract: what callers ask of the backend and how it answers.

Owns: commands, replies, and the envelope that carries a command.

Does not own: how a command is processed.
-/

namespace BoundedScene

/-- A command to the backend. -/
inductive Command (V : Type) where
  | store (prop : StoredProp V)
  | fetch (key : String)
  | dispose (key : String)
  | signal (topic : String)
  /-- Register the caller as a waiter. -/
  | subscribe (topic : String)

/-- A successful answer: without a value, or the value of a fetch or dispose. -/
inductive Reply (V : Type) where
  | done
  | value (value : V)

/-- The answer to a command. -/
abbrev Response (V : Type) : Type :=
  Except SceneError (Reply V)

/-- A command under way, with the number of its caller. -/
structure Envelope (V : Type) where
  caller : Nat
  command : Command V

/-- Whether a cleanup inside the command owns a handle of the scene. -/
def Command.holdsHandle {V : Type} : Command V → Bool
  | .store prop => prop.cleanup.any Cleanup.holdsHandle
  | _ => false

end BoundedScene
