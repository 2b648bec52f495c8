import BoundedScene.Event.Basic
import BoundedScene.Text.Quoted

/-!
Contract: the log line of an event.

Owns: the wording of the line of each kind of event.

Keys, topics and reasons stand quoted in a line, with one exception: the report
of a panicking subscriber shows its name and its panic as they are.

Does not own: where lines are written.
-/

namespace BoundedScene.Event

/-- Stands for a key, topic or reason that an event lacks. -/
def unknownText : String := "?"

/-- The line that a log shows for an event. -/
def logLine (event : Event) : String :=
  let key := Text.quoted (event.key.getD unknownText)
  let topic := Text.quoted (event.topic.getD unknownText)
  let reason := Text.quoted (event.reason.getD unknownText)
  let count := Nat.repr (event.count.getD 0)
  match event.kind with
  | .sceneStarted =>
      "[scene-started] inactivity_ms=" ++ Text.optional Nat.repr event.inactivityMilliseconds
        ++ " absolute_ms=" ++ Text.optional Nat.repr event.timeoutMilliseconds
  | .timeoutHit =>
      "[timeout] kind=" ++ reason
        ++ " timeout_ms=" ++ Nat.repr (event.timeoutMilliseconds.getD 0)
  | .abortRequested => "[abort] err=" ++ Text.optional Text.quoted event.reason
  | .sceneEnding => "[scene-ending]"
  | .sceneEnded =>
      "[scene-ended] cleaned=" ++ count ++ " err=" ++ Text.optional Text.quoted event.reason
  | .propStored => "[stored] key=" ++ key
  | .propFetched => "[fetched] key=" ++ key
  | .propDisposed => "[disposed] key=" ++ key
  | .cleanupFailed => "[cleanup-failed] key=" ++ key ++ " err=" ++ reason
  | .commandRejected =>
      "[rejected] key=" ++ Text.optional Text.quoted event.key
        ++ " topic=" ++ Text.optional Text.quoted event.topic
        ++ " err=" ++ Text.optional Text.quoted event.reason
  | .waiterRegistered => "[waiting] topic=" ++ topic
  | .signalDelivered => "[signal] topic=" ++ topic ++ " waiters=" ++ count
  | .subscriberOverflow =>
      "[subscriber-overflow] subscriber=" ++ Text.optional Text.quoted event.subscriber
        ++ " reason=" ++ Text.optional Text.quoted event.reason
        ++ " dropped=" ++ count
  | .subscriberPanicked =>
      "[subscriber-panicked] subscriber=" ++ event.subscriber.getD "unknown"
        ++ " info=" ++ event.reason.getD "unknown"

end BoundedScene.Event
