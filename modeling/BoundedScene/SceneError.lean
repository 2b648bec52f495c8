import BoundedScene.Text.Quoted
import BoundedScene.Time.Span

/-!
Contract: why operations on a scene fail and why scenes end.

Owns:
- `SceneError` and the `Cause` that a cleanup or a caller can supply;
- the message, the stable label and the predicates of an error;
- the chain of messages from an error down to its innermost cause.

Does not own: when an error arises.
-/

namespace BoundedScene

/-- Which of the two scene deadlines was due. -/
inductive TimeoutKind where
  | inactivity
  | absolute
deriving DecidableEq, Repr

def TimeoutKind.label : TimeoutKind → String
  | .inactivity => "inactivity"
  | .absolute => "absolute"

/-- A supervised loop that never produced a result of its own. -/
structure Abandonment where
  reason : String
deriving DecidableEq, Repr

namespace Abandonment

def message (abandonment : Abandonment) : String :=
  "supervised loop abandoned: " ++ abandonment.reason

/-- The loop's task was destroyed before the loop returned. -/
def dropped : Abandonment :=
  ⟨"loop task dropped before completion"⟩

end Abandonment

mutual

/-- Why an operation was rejected, or why the scene ended. -/
inductive SceneError where
  /-- The scene no longer accepts work. -/
  | ended
  /-- A deadline was due; `after` is its configured length. -/
  | timeout (kind : TimeoutKind) (after : Span)
  /-- A store named a key that is present. -/
  | propAlreadyExists (key : String)
  /-- A fetch or dispose named a key that is not present. -/
  | propNotFound (key : String)
  /-- The cleanup of a prop failed or panicked. -/
  | cleanupFailed (key : String) (source : Cause)
  /-- A signal was raised for a topic that nobody waits on. -/
  | noSubscriber (topic : String)
  /-- A bounded wait for a signal ran out. -/
  | waitedTooLong (topic : String)
  /-- A caller aborted the scene. -/
  | aborted (source : Cause)
  /-- The backend vanished without a result. -/
  | backendLost (reason : String)
deriving Repr

/-- An error supplied from outside: an opaque one that only has a message, or a
scene error that is passed on. -/
inductive Cause where
  | foreign (message : String)
  | scene (error : SceneError)
deriving Repr

end

instance : Inhabited SceneError := ⟨.ended⟩

instance : Inhabited Cause := ⟨.scene .ended⟩

mutual

/-- What an error says to a reader. -/
def SceneError.message : SceneError → String
  | .ended => "scene already ended"
  | .timeout kind after => "scene " ++ kind.label ++ " timeout reached after " ++ after.text
  | .propAlreadyExists key => "prop " ++ Text.quoted key ++ " already exists"
  | .propNotFound key => "prop " ++ Text.quoted key ++ " does not exist"
  | .cleanupFailed key source =>
      "cleanup of prop " ++ Text.quoted key ++ " failed: " ++ source.message
  | .noSubscriber topic => "no subscriber to signal " ++ Text.quoted topic
  | .waitedTooLong topic => "waiting for signal " ++ Text.quoted topic ++ " timed out"
  | .aborted source => "scene aborted: " ++ source.message
  | .backendLost reason => "scene backend lost: " ++ reason

/-- What a supplied error says to a reader. -/
def Cause.message : Cause → String
  | .foreign message => message
  | .scene error => error.message

end

mutual

/-- The messages of an error's source, of the source of that, and so on. -/
def SceneError.chain : SceneError → List String
  | .cleanupFailed _ source => source.message :: source.chain
  | .aborted source => source.message :: source.chain
  | _ => []

/-- The messages below a supplied error; an opaque one has none. -/
def Cause.chain : Cause → List String
  | .foreign _ => []
  | .scene error => error.chain

end

namespace SceneError

def ofAbandonment (abandonment : Abandonment) : SceneError :=
  .backendLost abandonment.reason

/-- Short stable name for logs and metrics. -/
def label : SceneError → String
  | .ended => "scene_ended"
  | .timeout _ _ => "scene_timeout"
  | .propAlreadyExists _ => "prop_already_exists"
  | .propNotFound _ => "prop_not_found"
  | .cleanupFailed _ _ => "cleanup_failed"
  | .noSubscriber _ => "no_subscriber"
  | .waitedTooLong _ => "waited_too_long"
  | .aborted _ => "scene_aborted"
  | .backendLost _ => "scene_backend_lost"

def isEnded : SceneError → Bool
  | .ended => true
  | _ => false

def timeoutKind? : SceneError → Option TimeoutKind
  | .timeout kind _ => some kind
  | _ => none

def isTimeout (error : SceneError) : Bool :=
  error.timeoutKind?.isSome

def isPropAlreadyExists : SceneError → Bool
  | .propAlreadyExists _ => true
  | _ => false

def isPropNotFound : SceneError → Bool
  | .propNotFound _ => true
  | _ => false

def isCleanupFailed : SceneError → Bool
  | .cleanupFailed _ _ => true
  | _ => false

def isNoSubscriber : SceneError → Bool
  | .noSubscriber _ => true
  | _ => false

def isWaitedTooLong : SceneError → Bool
  | .waitedTooLong _ => true
  | _ => false

def isAborted : SceneError → Bool
  | .aborted _ => true
  | _ => false

/-- The names of the predicates that hold of an error. -/
def flags (error : SceneError) : List String :=
  [ ("ended", error.isEnded),
    ("timeout", error.isTimeout),
    ("prop_already_exists", error.isPropAlreadyExists),
    ("prop_not_found", error.isPropNotFound),
    ("cleanup_failed", error.isCleanupFailed),
    ("no_subscriber", error.isNoSubscriber),
    ("waited_too_long", error.isWaitedTooLong),
    ("aborted", error.isAborted) ].filterMap fun flag =>
      if flag.2 then some flag.1 else none

end SceneError

end BoundedScene
