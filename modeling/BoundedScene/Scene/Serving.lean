import BoundedScene.Scene.Session

/-!
Contract: the turn of the backend.

Owns:
- the processing of one command, with the events it publishes;
- the teardown and the terminal result of the backend;
- the order in which a stop, a deadline, a command and the loss of the last
  handle are considered.

A stop request or a due deadline goes before queued commands.  A due deadline
concludes the backend, so an abort during the teardown no longer replaces the
timeout.  The teardown runs every cleanup; its first failure is the backend's
result only after a graceful stop.

Does not own: the turns of the callers.
-/

namespace BoundedScene.Session

variable {V : Type}

/-! ## Cleanups -/

/-- What a cleanup does to the scene before it comes to its end. -/
def performAct (session : Session V) : CleanupAct → Session V
  | .nothing => session
  | .abort cause => session.abort cause
  | .observe => session
  | .pass time =>
      { session with agenda := { session.agenda with clock := session.agenda.clock.pass time } }

/-- The phase that a cleanup observes. -/
def observed (session : Session V) : CleanupAct → Option Phase
  | .observe => some session.phase
  | _ => none

/-- Run the cleanup of a removed prop, if it has one.  Also gives its failure. -/
def runCleanup (session : Session V) (prop : StoredProp V) : Option SceneError × Session V :=
  match prop.cleanup with
  | none => (none, session)
  | some cleanup =>
      let run : CleanupRun V :=
        { key := prop.key, value := prop.value, cleanup,
          observed := session.observed cleanup.act }
      (cleanup.failure? prop.key, (session.performAct cleanup.act).record (.cleaned run))

/-- Run the cleanups of removed props in order and collect the failures. -/
def runCleanups : List (StoredProp V) → Session V → List SceneError × Session V
  | [], session => ([], session)
  | prop :: rest, session =>
      let (failure, session) := session.runCleanup prop
      let (failures, session) := runCleanups rest session
      (failure.toList ++ failures, session)

/-! ## Commands -/

/-- The event that reports a failed cleanup. -/
def cleanupFailedEvent : SceneError → Event
  | .cleanupFailed key source =>
      ((Event.plain .cleanupFailed).withKey key).withReason source.message
  | error => (Event.plain .cleanupFailed).withReason error.message

/-- The event that reports a command which ended with an error. -/
def rejectedEvent (error : SceneError) : Event :=
  match error with
  | .cleanupFailed _ _ => cleanupFailedEvent error
  | .propAlreadyExists key =>
      ((Event.plain .commandRejected).withKey key).withReason error.label
  | .propNotFound key => ((Event.plain .commandRejected).withKey key).withReason error.label
  | .noSubscriber topic =>
      ((Event.plain .commandRejected).withTopic topic).withReason error.label
  | _ => (Event.plain .commandRejected).withReason error.label

/-- Remove a prop and run its cleanup; the prop is gone even if that fails. -/
def dispose (session : Session V) (key : String) : Response V × Session V :=
  match session.props.remove key with
  | .error error => (.error error, session)
  | .ok (prop, props) =>
      match ({ session with props }).runCleanup prop with
      | (some failure, session) => (.error failure, session)
      | (none, session) =>
          (.ok (.value prop.value), session.publish ((Event.plain .propDisposed).withKey key))

/-- Carry out a command and publish its success. -/
def execute (session : Session V) (caller : Nat) : Command V → Response V × Session V
  | .store prop =>
      match session.props.store prop with
      | .error error => (.error error, session)
      | .ok props =>
          (.ok .done,
            ({ session with props }).publish ((Event.plain .propStored).withKey prop.key))
  | .fetch key =>
      match session.props.fetch key with
      | .error error => (.error error, session)
      | .ok value =>
          (.ok (.value value), session.publish ((Event.plain .propFetched).withKey key))
  | .dispose key => session.dispose key
  | .signal topic =>
      match session.subscriptions.signal session.listens topic with
      | (.error error, subscriptions) => (.error error, { session with subscriptions })
      | (.ok woken, subscriptions) =>
          let session := woken.foldl (notify .raised) { session with subscriptions }
          (.ok .done, session.publish
            (((Event.plain .signalDelivered).withTopic topic).withCount woken.length))
  | .subscribe topic =>
      let session := session.publish ((Event.plain .waiterRegistered).withTopic topic)
      let subscriptions := session.subscriptions.subscribe session.listens topic caller
      (.ok .done, { session with subscriptions })

/-- Publish the failure of a command, if it failed. -/
def publishFailure (session : Session V) : Response V → Session V
  | .error error => session.publish (rejectedEvent error)
  | .ok _ => session

/-- Process one command: carry it out, publish the outcome, then answer. -/
def process (session : Session V) (envelope : Envelope V) : Session V :=
  let (response, session) := session.execute envelope.caller envelope.command
  let session := session.publishFailure response
  let entry : Processed V :=
    { caller := envelope.caller, command := envelope.command, response }
  (session.record (.processed entry)).respond envelope.caller (.filled response)

/-! ## The end -/

/-- Nobody can enter the mailbox any more; whoever waited to enter goes on. -/
def closeMailbox (session : Session V) : Session V :=
  let (mailbox, released) := session.mailbox.close
  ({ session with mailbox }).wakeAll (released.map SceneTask.call)

/-- Remove every prop and run its cleanup.  Also gives the failures. -/
def tearDown (session : Session V) : List SceneError × Session V :=
  runCleanups (session.visiting.arrange session.props.props) { session with props := {} }

/-- Let go of every waiter. -/
def releaseWaiters (session : Session V) : Session V :=
  session.subscriptions.allWaiters.foldl (notify .released)
    { session with subscriptions := {} }

/-- Drop the commands that were not processed. -/
def dropQueued (session : Session V) : Session V :=
  session.mailbox.queued.foldl (fun session envelope => session.respond envelope.caller .closed)
    { session with mailbox := { session.mailbox with queued := [] } }

/-- The backend's own result: what made it end, or else the first failure. -/
def ownResult (cause : Option SceneError) (failures : List SceneError) :
    Except SceneError Unit :=
  match cause with
  | some error => .error error
  | none =>
      match failures with
      | failure :: _ => .error failure
      | [] => .ok ()

/-- The event that tells that the scene has ended. -/
def endedEvent (removed : Nat) (own : Except SceneError Unit) : Event :=
  let event := (Event.plain .sceneEnded).withCount removed
  match own with
  | .error error => event.withReason error.message
  | .ok () => event

/-- The task of the backend returns `own`: the terminal result is stored and
whoever waited for it goes on. -/
def storeResult (session : Session V) (own : Except SceneError Unit) : Session V :=
  let woken := session.endingWatchers ++ session.resultWatchers
  let ended := session.record (.ended (session.control.resolve own))
  (({ ended with backend := .returned }).updateControl (session.control.finish own)
    woken).updateDelivery Delivery.tellEnd

/-- Leave the active phase for good, because of `cause` if it is an error. -/
def finish (session : Session V) (cause : Option SceneError) : Session V :=
  let removed := session.props.size
  let session := { session with phase := session.phase.later .ending }
  let session := session.publish ((Event.plain .sceneEnding).withCount removed)
  let (failures, session) := session.closeMailbox.tearDown
  let session := (failures.map cleanupFailedEvent).foldl publish session
  let session := session.releaseWaiters
  let own := ownResult cause failures
  let session := { session with phase := session.phase.later .ended }
  ((session.publish (endedEvent removed own)).dropQueued).storeResult own

/-! ## The turn -/

/-- The deadline that is due, with its configured length.  The absolute one goes
first. -/
def dueDeadline? (session : Session V) : Option (TimeoutKind × Span) :=
  match session.backend with
  | .serving absolute inactivity =>
      if absolute.any session.clock.isDue then
        session.absolute.map fun after => (.absolute, after)
      else if inactivity.any session.clock.isDue then
        session.inactivity.map fun after => (.inactivity, after)
      else none
  | _ => none

/-- A deadline ends the scene. -/
def timeOut (session : Session V) (kind : TimeoutKind) (after : Span) : Session V :=
  let event := ((Event.plain .timeoutHit).withReason kind.label).withTimeout after
  ((session.conclude (some (kind, after))).publish event).finish (some (.timeout kind after))

/-- Set both deadlines. -/
def arm (session : Session V) : Session V :=
  { session with
    backend := .serving (session.absolute.map session.clock.deadline)
      (session.inactivity.map session.clock.deadline) }

/-- Set the inactivity deadline anew. -/
def rearm (session : Session V) : Session V :=
  match session.backend with
  | .serving absolute _ =>
      { session with
        backend := .serving absolute (session.inactivity.map session.clock.deadline) }
  | _ => session

/-- Take the oldest command out of the mailbox; its slot goes to whoever waits
longest. -/
def takeCommand? (session : Session V) : Option (Envelope V × Session V) :=
  session.mailbox.take?.map fun (envelope, mailbox, granted) =>
    (envelope, ({ session with mailbox }).wakeAll (granted.toList.map SceneTask.call))

/-- Serve until there is nothing to do, with at most `commands` commands. -/
def serve : Nat → Session V → Session V
  | commands, session =>
      if session.control.stopRequested then session.finish none
      else
        match session.dueDeadline? with
        | some (kind, after) => session.timeOut kind after
        | none =>
            match commands, session.takeCommand? with
            | commands + 1, some (envelope, session) =>
                serve commands (session.process envelope).rearm
            | 0, some _ => session
            | _, none =>
                if session.anyHandle then session else (session.conclude none).finish none

/-- The event that tells that the scene has started. -/
def startedEvent (session : Session V) : Event :=
  let event := Event.plain .sceneStarted
  let event := session.absolute.elim event event.withTimeout
  session.inactivity.elim event event.withInactivity

/-- The turn of the backend.  Only callers fill the mailbox and none of them has
a turn meanwhile, so the commands in it are all there are. -/
def resumeBackend (session : Session V) : Session V :=
  match session.backend with
  | .fresh =>
      let session := (session.record .opened).arm
      let session := session.publish session.startedEvent
      session.serve session.mailbox.queued.length
  | .serving _ _ => session.serve session.mailbox.queued.length
  | _ => session

end BoundedScene.Session
