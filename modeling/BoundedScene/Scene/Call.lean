import BoundedScene.Phase
import BoundedScene.Scene.Command

/-!
Contract: one call on a scene handle and how far it has come.

Owns:
- what a call asks for and how it can be answered;
- the stages of a call, and the slots in which a reply or a signal reaches it.

Does not own: the turn of a call.
-/

namespace BoundedScene

/-- What a call asks of a scene handle. -/
inductive Request (V : Type) where
  | store (key : String) (value : V) (cleanup : Option Cleanup)
  | fetch (key : String)
  | dispose (key : String)
  | signal (topic : String)
  /-- Wait for the next signal on a topic, for at most `limit`; a limit of zero
  is no limit. -/
  | waitSignal (topic : String) (limit : Span)
  | stop
  | wait
  | abort (cause : Cause)
  | phase

/-- How a call ends. -/
inductive Answer (V : Type) where
  | done
  | value (value : V)
  | failed (error : SceneError)
  | phase (phase : Phase)

/-- Where the reply to a command arrives. -/
inductive ReplySlot (V : Type) where
  | pending
  | filled (response : Response V)
  /-- The command will not be processed any more. -/
  | closed

/-- Where the signal for a waiter arrives. -/
inductive SignalSlot where
  | pending
  | raised
  /-- The waiter was released without a signal. -/
  | released
deriving DecidableEq, Repr

/-- How far a call has come. -/
inductive Stage (V : Type) where
  /-- Has not had a turn. -/
  | fresh
  /-- Waits for a slot in the mailbox. -/
  | seekingSlot
  /-- Its command is in the mailbox or answered. -/
  | awaitingReply
  /-- Registered as a waiter; gives up in the given millisecond, if any. -/
  | awaitingSignal (deadline : Option Nat)
  /-- Waits for the terminal result of the scene. -/
  | awaitingResult
  /-- Answered in the given millisecond. -/
  | finished (answer : Answer V) (millisecond : Nat)
  /-- Given up before it was answered. -/
  | dropped

structure Call (V : Type) where
  request : Request V
  stage : Stage V := .fresh
  reply : ReplySlot V := .pending
  signal : SignalSlot := .pending

namespace Request

variable {V : Type}

/-- The command that a call sends to the backend, if it sends one. -/
def command? : Request V → Option (Command V)
  | .store key value cleanup => some (.store { key, value, cleanup })
  | .fetch key => some (.fetch key)
  | .dispose key => some (.dispose key)
  | .signal topic => some (.signal topic)
  | .waitSignal topic _ => some (.subscribe topic)
  | _ => none

def isDispose : Request V → Bool
  | .dispose _ => true
  | _ => false

end Request

namespace Call

variable {V : Type}

/-- An unfinished call owns a handle of the scene. -/
def isUnfinished (call : Call V) : Bool :=
  match call.stage with
  | .finished _ _ => false
  | .dropped => false
  | _ => true

/-- Goes on when the scene starts to end. -/
def watchesEnding (call : Call V) : Bool :=
  match call.stage with
  | .seekingSlot => true
  | .awaitingReply => true
  | .awaitingSignal _ => true
  | _ => false

/-- Goes on when the terminal result is stored. -/
def watchesResult (call : Call V) : Bool :=
  match call.stage with
  | .awaitingResult => true
  | _ => false

/-- Listens for the reply to its command. -/
def awaitsReply (call : Call V) : Bool :=
  match call.stage with
  | .awaitingReply => true
  | _ => false

/-- Would take notice of a signal. -/
def listens (call : Call V) : Bool :=
  match call.stage with
  | .awaitingReply => true
  | .awaitingSignal _ => true
  | _ => false

/-- The millisecond in which the call gives up waiting. -/
def deadline? (call : Call V) : Option Nat :=
  match call.stage with
  | .awaitingSignal deadline => deadline
  | _ => none

end Call

end BoundedScene
