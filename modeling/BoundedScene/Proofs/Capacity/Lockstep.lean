import BoundedScene.Proofs.Capacity.Kindred

/-!
Contract: scenes that differ in the capacity of their mailboxes.

Owns:
- `Twins`, kindred scenes with the same calls and with nothing in their mailboxes;
- that twins take their turns in step as long as no caller wants to enter a mailbox.

Main statement: `Twins.run_to_rest`.

Does not own: scenes with commands under way.
-/

namespace BoundedScene

open BoundedScene.Supervision (Control)

/-- Nothing is in the mailbox, no slot is granted and nobody is in line. -/
structure Mailbox.IsBlank {E : Type} (mailbox : Mailbox E) : Prop where
  queued : mailbox.queued = []
  granted : mailbox.granted = []
  waiting : mailbox.waiting = []

namespace Mailbox.IsBlank

variable {E : Type} {mailbox : Mailbox E}

/-- Who leaves a blank mailbox was not there. -/
theorem leave (blank : mailbox.IsBlank) (id : Nat) : mailbox.leave id = (mailbox, none) := by
  obtain ⟨capacity, queued, granted, waiting, closed⟩ := mailbox
  obtain ⟨rfl, rfl, rfl⟩ := blank
  rfl

theorem take? (blank : mailbox.IsBlank) : mailbox.take? = none := by
  unfold Mailbox.take?
  rw [blank.queued]

end Mailbox.IsBlank

/-- Would try to enter the mailbox in its next turn. -/
def Call.submits {V : Type} (call : Call V) : Bool :=
  match call.stage with
  | .fresh => call.request.command?.isSome
  | .seekingSlot => true
  | _ => false

namespace Session

variable {V : Type}

/-- Kindred scenes with the same calls and with blank mailboxes, whatever their capacities;
in step, their tasks are ready in the same order. -/
structure Twins (inStep : Prop) (left right : Session V) : Prop extends Kindred left right where
  calls : left.calls = right.calls
  ready : inStep → left.agenda.ready = right.agenda.ready
  leftBlank : left.mailbox.IsBlank
  rightBlank : right.mailbox.IsBlank

/-- Who leaves a blank mailbox was not there. -/
theorem leaveMailbox_of_blank {session : Session V} (blank : session.mailbox.IsBlank) (id : Nat) :
    session.leaveMailbox id = session := by
  unfold leaveMailbox
  rw [blank.leave]
  rfl

/-- Without a command, a backend ends on request, at a deadline or for want of handles. -/
theorem serve_of_blank {session : Session V} (blank : session.mailbox.IsBlank) (commands : Nat) :
    session.serve commands =
      if session.control.stopRequested then session.finish none
      else
        match session.dueDeadline? with
        | some deadline => session.timeOut deadline.1 deadline.2
        | none => if session.anyHandle then session else (session.conclude none).finish none := by
  rw [serve_eq, blank.take?]
  split
  · rfl
  · cases session.dueDeadline? <;> cases commands <;> rfl

namespace Twins

variable {inStep : Prop} {left right : Session V}

/-! ## Requests and answers -/

theorem agenda (twins : Twins True left right) : left.agenda = right.agenda := by
  have ready := twins.ready trivial
  have clock : left.agenda.clock = right.agenda.clock := twins.clock
  cases hl : left.agenda
  cases hr : right.agenda
  simp_all

theorem record (twins : Twins inStep left right) (happening : Happening V) :
    Twins inStep (left.record happening) (right.record happening) :=
  { twins with records := (twins.toKindred.record happening).records }

theorem wakeAll (twins : Twins inStep left right) {tasks others : List SceneTask}
    (same : inStep → tasks = others) :
    Twins inStep (left.wakeAll tasks) (right.wakeAll others) :=
  { twins with
    clock := (twins.toKindred.wakeAll tasks others).clock
    ready := fun now => by
      have agenda := Twins.agenda { twins with ready := fun _ => twins.ready now }
      show (left.agenda.wakeAll tasks).ready = (right.agenda.wakeAll others).ready
      rw [same now, agenda] }

theorem modifyCall (twins : Twins inStep left right) (id : Nat) (change : Call V → Call V) :
    Twins inStep (left.modifyCall id change) (right.modifyCall id change) :=
  { twins with calls := congrArg (fun calls : List (Call V) => calls.modify id change) twins.calls }

theorem setStage (twins : Twins inStep left right) (id : Nat) (stage : Stage V) :
    Twins inStep (left.setStage id stage) (right.setStage id stage) :=
  twins.modifyCall id _

theorem updateDelivery (twins : Twins inStep left right) (change : Delivery → Delivery) :
    Twins inStep (left.updateDelivery change) (right.updateDelivery change) :=
  { twins.wakeAll fun _ => congrArg (fun delivery : Delivery =>
      (change delivery).woken.map SceneTask.delivery) twins.delivery with
    delivery := (twins.toKindred.updateDelivery change).delivery }

theorem publish (twins : Twins inStep left right) (event : Event) :
    Twins inStep (left.publish event) (right.publish event) :=
  twins.updateDelivery _

theorem publishAll (twins : Twins inStep left right) (events : List Event) :
    Twins inStep (events.foldl Session.publish left) (events.foldl Session.publish right) := by
  induction events generalizing left right with
  | nil => exact twins
  | cons first rest inductionHypothesis => exact inductionHypothesis (twins.publish first)

theorem anyHandle (twins : Twins inStep left right) : left.anyHandle = right.anyHandle := by
  unfold Session.anyHandle
  rw [twins.handles, twins.calls, twins.props, twins.leftBlank.queued, twins.rightBlank.queued]

theorem noteHandles (twins : Twins inStep left right) :
    Twins inStep left.noteHandles right.noteHandles := by
  unfold Session.noteHandles
  rw [twins.anyHandle]
  split
  · exact twins
  · exact twins.wakeAll fun _ => rfl

theorem answer (twins : Twins inStep left right) (id : Nat) (answer : Answer V) :
    Twins inStep (left.answer id answer) (right.answer id answer) := by
  unfold Session.answer
  rw [twins.clock]
  exact ((twins.record _).setStage id _).noteHandles

theorem callTasks (twins : Twins inStep left right) (test : Call V → Bool) :
    left.callTasks test = right.callTasks test := by
  unfold Session.callTasks
  rw [twins.calls]

theorem endingWatchers (twins : Twins inStep left right) :
    left.endingWatchers = right.endingWatchers := by
  unfold Session.endingWatchers
  rw [twins.control, twins.callTasks]

theorem stopWatchers (twins : Twins inStep left right) :
    left.stopWatchers = right.stopWatchers := by
  unfold Session.stopWatchers
  rw [twins.control, twins.endingWatchers]

theorem updateControl (twins : Twins inStep left right) {control other : Control SceneError}
    (same : control = other) {woken others : List SceneTask} (tasks : woken = others) :
    Twins inStep (left.updateControl control woken) (right.updateControl other others) :=
  have steered : Twins inStep { left with control } { right with control := other } :=
    { twins with control := same }
  steered.wakeAll fun _ => tasks

theorem requestStop (twins : Twins inStep left right) :
    Twins inStep left.requestStop right.requestStop :=
  (twins.record .stopRequested).updateControl (congrArg Control.requestStop twins.control)
    twins.stopWatchers

theorem abort (twins : Twins inStep left right) (cause : Cause) :
    Twins inStep (left.abort cause) (right.abort cause) := by
  have killed : Twins inStep
      ((left.record (.aborted cause)).updateControl (right.control.kill (.aborted cause))
        left.stopWatchers)
      ((right.record (.aborted cause)).updateControl (right.control.kill (.aborted cause))
        right.stopWatchers) :=
    (twins.record (.aborted cause)).updateControl rfl twins.stopWatchers
  unfold Session.abort
  dsimp only
  rw [twins.control]
  split
  · exact killed.publish _
  · exact killed

theorem conclude (twins : Twins inStep left right) (deadline : Option (TimeoutKind × Span)) :
    Twins inStep (left.conclude deadline) (right.conclude deadline) :=
  (twins.record (.concluded deadline)).updateControl (congrArg Control.conclude twins.control)
    twins.endingWatchers

theorem notifyAll (twins : Twins inStep left right) (signal : SignalSlot) (ids : List Nat) :
    Twins inStep (ids.foldl (notify signal) left) (ids.foldl (notify signal) right) := by
  induction ids generalizing left right with
  | nil => exact twins
  | cons first rest inductionHypothesis =>
      apply inductionHypothesis
      unfold notify
      rw [twins.calls]
      split
      · exact twins
      · split
        · exact (twins.modifyCall first _).wakeAll fun _ => rfl
        · exact twins

/-! ## The turn of the backend -/

theorem performAct (twins : Twins inStep left right) (act : CleanupAct) :
    Twins inStep (left.performAct act) (right.performAct act) := by
  cases act with
  | abort cause => exact twins.abort cause
  | pass time =>
      exact { twins with clock := congrArg (fun clock : Clock => clock.pass time) twins.clock }
  | _ => exact twins

theorem runCleanup (twins : Twins inStep left right) (prop : StoredProp V) :
    (left.runCleanup prop).1 = (right.runCleanup prop).1
      ∧ Twins inStep (left.runCleanup prop).2 (right.runCleanup prop).2 := by
  unfold Session.runCleanup
  cases prop.cleanup with
  | none => exact ⟨rfl, twins⟩
  | some cleanup =>
      have observed : left.observed cleanup.act = right.observed cleanup.act := by
        unfold Session.observed
        rw [twins.phase]
      dsimp only
      rw [observed]
      exact ⟨rfl, (twins.performAct cleanup.act).record _⟩

theorem runCleanups (twins : Twins inStep left right) (props : List (StoredProp V)) :
    (Session.runCleanups props left).1 = (Session.runCleanups props right).1
      ∧ Twins inStep (Session.runCleanups props left).2 (Session.runCleanups props right).2 := by
  induction props generalizing left right with
  | nil => exact ⟨rfl, twins⟩
  | cons prop rest inductionHypothesis =>
      obtain ⟨failure, cleaned⟩ := twins.runCleanup prop
      obtain ⟨failures, torn⟩ := inductionHypothesis cleaned
      refine ⟨?_, torn⟩
      calc (left.runCleanup prop).1.toList ++ (Session.runCleanups rest (left.runCleanup prop).2).1
          = (right.runCleanup prop).1.toList
              ++ (Session.runCleanups rest (right.runCleanup prop).2).1 := by
            rw [failure, failures]

theorem tearDown (twins : Twins inStep left right) :
    left.tearDown.1 = right.tearDown.1 ∧ Twins inStep left.tearDown.2 right.tearDown.2 := by
  have emptied : Twins inStep { left with props := {} } { right with props := {} } :=
    { twins with props := rfl }
  have arranged : left.visiting.arrange left.props.props
      = right.visiting.arrange right.props.props := by rw [twins.visiting, twins.props]
  unfold Session.tearDown
  rw [arranged]
  exact emptied.runCleanups _

theorem closeMailbox (twins : Twins inStep left right) :
    Twins inStep left.closeMailbox right.closeMailbox := by
  have shut : Twins inStep { left with mailbox := left.mailbox.close.1 }
      { right with mailbox := right.mailbox.close.1 } :=
    { twins with
      closed := rfl
      leftBlank := ⟨twins.leftBlank.queued, rfl, rfl⟩
      rightBlank := ⟨twins.rightBlank.queued, rfl, rfl⟩ }
  refine shut.wakeAll fun _ => ?_
  show left.mailbox.waiting.map SceneTask.call = right.mailbox.waiting.map SceneTask.call
  rw [twins.leftBlank.waiting, twins.rightBlank.waiting]

theorem releaseWaiters (twins : Twins inStep left right) :
    Twins inStep left.releaseWaiters right.releaseWaiters := by
  have emptied : Twins inStep { left with subscriptions := {} }
      { right with subscriptions := {} } := { twins with subscriptions := rfl }
  unfold Session.releaseWaiters
  rw [twins.subscriptions]
  exact emptied.notifyAll _ _

theorem dropQueued (twins : Twins inStep left right) :
    Twins inStep left.dropQueued right.dropQueued := by
  unfold Session.dropQueued
  rw [twins.leftBlank.queued, twins.rightBlank.queued]
  exact
    { twins with
      leftBlank := ⟨rfl, twins.leftBlank.granted, twins.leftBlank.waiting⟩
      rightBlank := ⟨rfl, twins.rightBlank.granted, twins.rightBlank.waiting⟩ }

theorem storeResult (twins : Twins inStep left right) (own : Except SceneError Unit) :
    Twins inStep (left.storeResult own) (right.storeResult own) := by
  have woken : left.endingWatchers ++ left.resultWatchers
      = right.endingWatchers ++ right.resultWatchers := by
    rw [twins.endingWatchers, Session.resultWatchers, Session.resultWatchers, twins.callTasks]
  have noted := twins.record (.ended (right.control.resolve own))
  have returned : Twins inStep
      { left.record (.ended (right.control.resolve own)) with backend := .returned }
      { right.record (.ended (right.control.resolve own)) with backend := .returned } :=
    { noted with backend := rfl }
  unfold Session.storeResult
  dsimp only
  rw [twins.control]
  exact (returned.updateControl rfl woken).updateDelivery Delivery.tellEnd

theorem shutDown (twins : Twins inStep left right) :
    Twins inStep left.shutDown right.shutDown := by
  have ending : Twins inStep { left with phase := left.phase.later .ending }
      { right with phase := right.phase.later .ending } :=
    { twins with phase := congrArg (fun phase : Phase => phase.later .ending) twins.phase }
  have size : left.props.size = right.props.size := congrArg PropTable.size twins.props
  unfold Session.shutDown
  rw [size]
  exact (ending.publish _).closeMailbox

theorem takeLeave (twins : Twins inStep left right) (removed : Nat) (cause : Option SceneError)
    (failures : List SceneError) :
    Twins inStep (Session.takeLeave removed cause (failures, left))
      (Session.takeLeave removed cause (failures, right)) := by
  have released := (twins.publishAll (failures.map cleanupFailedEvent)).releaseWaiters
  unfold Session.takeLeave
  dsimp only
  generalize (List.foldl Session.publish left _).releaseWaiters = left at released ⊢
  generalize (List.foldl Session.publish right _).releaseWaiters = right at released ⊢
  have ended : Twins inStep { left with phase := left.phase.later .ended }
      { right with phase := right.phase.later .ended } :=
    { released with phase := congrArg (fun phase : Phase => phase.later .ended) released.phase }
  exact ((ended.publish _).dropQueued).storeResult _

theorem finish (twins : Twins inStep left right) (cause : Option SceneError) :
    Twins inStep (left.finish cause) (right.finish cause) := by
  obtain ⟨failures, torn⟩ := twins.shutDown.tearDown
  rw [finish_eq, finish_eq, twins.props]
  generalize left.shutDown.tearDown = left at failures torn ⊢
  generalize right.shutDown.tearDown = right at failures torn ⊢
  obtain ⟨leftFailures, left⟩ := left
  obtain ⟨rightFailures, right⟩ := right
  obtain rfl : leftFailures = rightFailures := failures
  exact torn.takeLeave _ cause _

theorem timeOut (twins : Twins inStep left right) (kind : TimeoutKind) (after : Span) :
    Twins inStep (left.timeOut kind after) (right.timeOut kind after) :=
  ((twins.conclude (some (kind, after))).publish _).finish _

theorem dueDeadline? (twins : Twins inStep left right) :
    left.dueDeadline? = right.dueDeadline? := by
  unfold Session.dueDeadline?
  rw [twins.backend, twins.clock, twins.absolute, twins.inactivity]

theorem serve (twins : Twins inStep left right) (commands others : Nat) :
    Twins inStep (left.serve commands) (right.serve others) := by
  rw [serve_of_blank twins.leftBlank, serve_of_blank twins.rightBlank, twins.control,
    twins.dueDeadline?, twins.anyHandle]
  split
  · exact twins.finish none
  · cases right.dueDeadline? with
    | some deadline => exact twins.timeOut deadline.1 deadline.2
    | none =>
        dsimp only
        split
        · exact twins
        · exact (twins.conclude none).finish none

theorem openUp (twins : Twins inStep left right) : Twins inStep left.openUp right.openUp := by
  have event : left.startedEvent = right.startedEvent := by
    unfold startedEvent
    rw [twins.absolute, twins.inactivity]
  have published : Twins inStep (left.publish left.startedEvent)
      (right.publish right.startedEvent) := by
    rw [← event]
    exact twins.publish left.startedEvent
  exact
    { twins.toKindred.openUp with
      calls := twins.calls
      ready := published.ready
      leftBlank := twins.leftBlank
      rightBlank := twins.rightBlank }

theorem resumeBackend (twins : Twins inStep left right) :
    Twins inStep left.resumeBackend right.resumeBackend := by
  unfold Session.resumeBackend
  rw [twins.backend]
  cases right.backend with
  | fresh => exact twins.openUp.serve _ _
  | serving absolute inactivity => exact twins.serve _ _
  | _ => exact twins

/-! ## The turn of a call -/

theorem result? (twins : Twins inStep left right) : left.result? = right.result? := by
  unfold Session.result?
  rw [twins.control]

theorem awaitResult (twins : Twins inStep left right) (id : Nat) (request : Request V) :
    Twins inStep (left.awaitResult id request) (right.awaitResult id request) := by
  unfold Session.awaitResult
  rw [twins.result?]
  split
  · exact twins.answer id _
  · exact twins.setStage id _

theorem overtake (twins : Twins inStep left right) (id : Nat) (request : Request V) :
    Twins inStep (left.overtake id request) (right.overtake id request) :=
  (twins.record (.overtaken id)).awaitResult id request

theorem awaitSignal (twins : Twins inStep left right) (id : Nat) (call : Call V)
    (topic : String) (deadline : Option Nat) :
    Twins inStep (left.awaitSignal id call topic deadline)
      (right.awaitSignal id call topic deadline) := by
  unfold Session.awaitSignal
  rw [twins.control, twins.clock]
  split
  · exact twins.answer id _
  · exact twins.overtake id _
  · split
    · exact twins.overtake id _
    · split
      · exact twins.answer id _
      · exact twins.setStage id _

theorem acceptReply (twins : Twins inStep left right) (id : Nat) (call : Call V)
    (response : Response V) :
    Twins inStep (left.acceptReply id call response) (right.acceptReply id call response) := by
  have noted := twins.record (.replied id response)
  unfold Session.acceptReply
  dsimp only
  rw [noted.clock]
  split
  · exact noted.answer id _
  · split
    · exact noted.awaitSignal id call _ _
    · split <;> exact noted.answer id _

theorem awaitReply (twins : Twins inStep left right) (id : Nat) (call : Call V) :
    Twins inStep (left.awaitReply id call) (right.awaitReply id call) := by
  unfold Session.awaitReply
  rw [twins.control]
  split
  · exact twins.acceptReply id call _
  · exact twins.overtake id _
  · split
    · exact (twins.modifyCall id _).overtake id _
    · exact twins

/-- Nobody enters a closed mailbox. -/
theorem submit (twins : Twins inStep left right) (closed : left.mailbox.closed = true) (id : Nat)
    (command : Command V) :
    Twins inStep (left.submit id command) (right.submit id command) := by
  have barred : right.mailbox.closed = true := twins.closed ▸ closed
  unfold Session.submit
  rw [if_pos (by rw [closed, Bool.or_true]), if_pos (by rw [barred, Bool.or_true]),
    leaveMailbox_of_blank twins.leftBlank, leaveMailbox_of_blank twins.rightBlank]
  exact twins.answer id _

theorem begin (twins : Twins inStep left right) (id : Nat) (call : Call V)
    (shut : call.request.command?.isSome = true → left.mailbox.closed = true) :
    Twins inStep (left.begin id call) (right.begin id call) := by
  have noted := twins.record (.started id)
  unfold Session.begin
  cases asks : call.request with
  | stop => exact noted.requestStop.awaitResult id _
  | wait => exact noted.awaitResult id _
  | abort cause => exact (noted.abort cause).answer id _
  | phase =>
      dsimp only
      rw [noted.phase]
      exact noted.answer id _
  | _ =>
      rw [asks] at shut
      exact noted.submit (shut rfl) id _

theorem resumeCall (twins : Twins inStep left right) (id : Nat)
    (shut : ∀ call, left.calls[id]? = some call → call.submits = true →
      left.mailbox.closed = true) :
    Twins inStep (left.resumeCall id) (right.resumeCall id) := by
  unfold Session.resumeCall
  rw [← twins.calls]
  cases found : left.calls[id]? with
  | none => exact twins
  | some call =>
      have barred := shut call found
      unfold Call.submits at barred
      dsimp only
      split
      case h_1 fresh =>
        rw [fresh] at barred
        exact twins.begin id call barred
      case h_2 seeks =>
        rw [seeks] at barred
        unfold seekSlot
        split
        · exact twins.submit (barred rfl) id _
        · exact twins
      case h_3 => exact twins.awaitReply id call
      case h_4 =>
        split
        · exact twins.awaitSignal id call _ _
        · exact twins
      case h_5 => exact twins.awaitResult id _
      case h_6 => exact twins
      case h_7 => exact twins

/-! ## Deeds, turns and time -/

theorem act (twins : Twins inStep left right) (deed : Deed V) :
    Twins inStep (left.act deed) (right.act deed) := by
  cases deed with
  | call request =>
      have number : left.calls.length = right.calls.length := congrArg List.length twins.calls
      have made : Twins inStep { left with calls := left.calls ++ [{ request }] }
          { right with calls := right.calls ++ [{ request }] } :=
        { twins with calls := by rw [twins.calls] }
      exact made.wakeAll fun _ => by rw [number]
  | cancel id =>
      show Twins inStep (left.cancel id) (right.cancel id)
      unfold cancel
      rw [twins.calls]
      split
      · exact twins
      · split
        · have dropped := (twins.record (.cancelled id)).setStage id .dropped
          rw [leaveMailbox_of_blank dropped.leftBlank, leaveMailbox_of_blank dropped.rightBlank]
          exact dropped.noteHandles
        · exact twins
  | clone =>
      have cloned : left.handles ++ [true] = right.handles ++ [true] := by rw [twins.handles]
      exact { twins with handles := cloned }
  | drop handle =>
      have given : Twins inStep { left with handles := left.handles.set handle false }
          { right with handles := right.handles.set handle false } :=
        { twins with handles := by rw [twins.handles] }
      exact given.noteHandles
  | release lane count => exact twins.updateDelivery fun delivery => delivery.permit lane count
  | dropTasks =>
      have runs : left.backendRuns = right.backendRuns := by
        unfold backendRuns
        rw [twins.backend]
      show Twins inStep left.dropTasks right.dropTasks
      unfold dropTasks
      rw [runs]
      exact
        { twins with
          control := congrArg Control.lose twins.control
          props := rfl
          subscriptions := rfl
          backend := by rw [twins.backend]
          delivery := congrArg Delivery.lose twins.delivery
          calls := by rw [twins.calls]
          closed := rfl
          ready := fun _ => rfl
          leftBlank := ⟨rfl, rfl, rfl⟩
          rightBlank := ⟨rfl, rfl, rfl⟩ }

theorem actAll (twins : Twins inStep left right) (deeds : List (Deed V)) :
    Twins inStep (left.actAll deeds) (right.actAll deeds) := by
  unfold Session.actAll
  induction deeds generalizing left right with
  | nil => exact twins
  | cons first rest inductionHypothesis => exact inductionHypothesis (twins.act first)

theorem alarms (twins : Twins inStep left right) : left.alarms = right.alarms := by
  unfold Session.alarms
  rw [twins.backend, twins.calls]

theorem reach (twins : Twins inStep left right) (instant : Nat) :
    Twins inStep (Turns.reach instant left) (Turns.reach instant right) := by
  have moved : Twins inStep
      { left with agenda := { left.agenda with clock := left.clock.reach instant } }
      { right with agenda := { right.agenda with clock := right.clock.reach instant } } :=
    { twins with clock := congrArg (fun clock : Clock => clock.reach instant) twins.clock }
  refine moved.wakeAll fun _ => ?_
  have alarms := moved.alarms
  have clock := moved.clock
  unfold Turns.dueOwners
  exact congrArg₂ (fun (alarms : List (Alarm SceneTask)) (clock : Clock) =>
    ((alarms.filter fun alarm => clock.isDue alarm.due).mergeSort
      fun left right => decide (left.due ≤ right.due)).map Alarm.owner) alarms clock

end Twins

/-! ## Whole runs -/

/-- No caller wants to enter the mailbox, unless it is closed. -/
def Undemanding (session : Session V) : Prop :=
  session.mailbox.closed = true ∨ ∀ call ∈ session.calls, call.submits = false

variable {before after : Session V}

theorem submits_of_same {call other : Call V} (stage : other.stage = call.stage)
    (request : other.request = call.request) : other.submits = call.submits := by
  unfold Call.submits
  rw [stage, request]

theorem Undemanding.undisturbed (undemanding : before.Undemanding)
    (undisturbed : Undisturbed before after) : after.Undemanding := by
  obtain ⟨changes, calls, unmoved, closed⟩ := undisturbed
  rcases undemanding with shut | idle
  · exact .inl (closed shut)
  · refine .inr fun call member => ?_
    obtain ⟨id, found⟩ := List.mem_iff_getElem?.mp member
    obtain ⟨old, present, stage, request⟩ := origin_of_unmoved calls (unmoved id) found
    rw [← submits_of_same stage request]
    exact idle old (List.mem_of_getElem? present)

theorem ResultTurn.undemanding {control : Control SceneError} {id : Nat} {request : Request V}
    {log : List (Happening V)} {stage : Stage V} (turn : ResultTurn control id request log stage)
    (call : Call V) : ({ call with stage } : Call V).submits = false := by
  cases turn <;> rfl

theorem SignalTurn.undemanding {control : Control SceneError} {clock : Clock} {id : Nat}
    {call : Call V} {topic : String} {deadline : Option Nat} {log : List (Happening V)}
    {stage : Stage V} (turn : SignalTurn control clock id call topic deadline log stage)
    (other : Call V) : ({ other with stage } : Call V).submits = false := by
  cases turn with
  | overtaken lapsed turn => exact turn.undemanding other
  | _ => rfl

/-- A call that does not submit a command in its turn does not want to afterwards. -/
theorem CallTurn.undemanding {id : Nat} {call : Call V} {log : List (Happening V)}
    {changes : List (CallChange V)} {mailbox : Mailbox (Envelope V)}
    (turn : CallTurn before id call log changes mailbox) (idle : call.submits = false) :
    (Call.applyAll id changes call).submits = false ∧ mailbox = before.mailbox := by
  cases turn with
  | rests => exact ⟨idle, rfl⟩
  | strays => exact ⟨idle, rfl⟩
  | stops fresh asks turn => exact ⟨by simpa [Call.apply] using turn.undemanding call, rfl⟩
  | waits fresh asks turn => exact ⟨by simpa [Call.apply] using turn.undemanding call, rfl⟩
  | aborts => exact ⟨by simp [Call.apply, Call.submits], rfl⟩
  | looks => exact ⟨by simp [Call.apply, Call.submits], rfl⟩
  | @submits opening log stage command mailbox opens sends turn =>
      unfold Call.submits at idle
      generalize call.stage = began at opens idle
      cases opens with
      | first => simp [sends] at idle
      | again => cases idle
  | replied waiting filled turn =>
      cases turn with
      | answered => exact ⟨by simp [Call.apply, Call.submits], rfl⟩
      | registered deadline asks accepted turn =>
          exact ⟨by simpa [Call.apply] using turn.undemanding call, rfl⟩
  | overtaken waiting lapsed turn =>
      exact ⟨by simpa [Call.apply] using turn.undemanding { call with reply := .closed }, rfl⟩
  | listens waiting asks turn => exact ⟨by simpa [Call.apply] using turn.undemanding call, rfl⟩
  | asks waiting turn => exact ⟨by simpa [Call.apply] using turn.undemanding call, rfl⟩

theorem CallTurn.closed {id : Nat} {call : Call V} {log : List (Happening V)}
    {changes : List (CallChange V)} {mailbox : Mailbox (Envelope V)}
    (turn : CallTurn before id call log changes mailbox) :
    mailbox.closed = before.mailbox.closed := by
  cases turn with
  | submits opens sends turn =>
      cases turn with
      | refused barred => exact closed_grant _
      | enters ongoing unclosed admitted => rfl
      | linesUp ongoing unclosed full =>
          unfold Mailbox.await
          split <;> rfl
  | _ => rfl

theorem Undemanding.resumeCall (undemanding : before.Undemanding) (id : Nat) :
    (before.resumeCall id).Undemanding := by
  cases found : before.calls[id]? with
  | none =>
      have still : before.resumeCall id = before := by
        unfold Session.resumeCall
        rw [found]
      rwa [still]
  | some call =>
      obtain ⟨log, changes, mailbox, turn, growth, -⟩ := before.resumeCall_turnsBy _ _ found
      rcases undemanding with shut | idle
      · refine .inl ?_
        rw [growth.mailbox]
        exact turn.closed.trans shut
      · refine .inr fun later member => ?_
        obtain ⟨other, present⟩ := List.mem_iff_getElem?.mp member
        rw [growth.calls, Option.map_eq_some_iff] at present
        obtain ⟨old, earlier, rfl⟩ := present
        have calm := idle old (List.mem_of_getElem? earlier)
        by_cases own : id = other
        · subst own
          obtain rfl : call = old := Option.some.inj (found.symm.trans earlier)
          exact (turn.undemanding calm).1
        · rw [turn.elsewhere own]
          exact calm

theorem Undemanding.resume (undemanding : before.Undemanding) (task : SceneTask) :
    (resume task before).Undemanding := by
  cases task with
  | backend => exact undemanding.undisturbed before.resumeBackend_undisturbed
  | call id => exact undemanding.resumeCall id
  | delivery task => exact undemanding

namespace Twins

variable {left right : Session V}

theorem resume (twins : Twins True left right) (undemanding : left.Undemanding)
    (task : SceneTask) : Twins True (Session.resume task left) (Session.resume task right) := by
  cases task with
  | backend => exact twins.resumeBackend
  | call id =>
      refine twins.resumeCall id fun call found demands => ?_
      rcases undemanding with shut | idle
      · exact shut
      · rw [idle call (List.mem_of_getElem? found)] at demands
        cases demands
  | delivery task => exact twins.updateDelivery _

/-- Twins take the same turn, or both rest. -/
theorem turn (twins : Twins True left right) (undemanding : left.Undemanding) :
    Turns.turn? left = none ∧ Turns.turn? right = none
      ∨ ∃ nextLeft nextRight, Turns.turn? left = some nextLeft
        ∧ Turns.turn? right = some nextRight ∧ Twins True nextLeft nextRight
        ∧ nextLeft.Undemanding := by
  have agenda : Turns.agenda left = Turns.agenda right := twins.agenda
  unfold Turns.turn? Turns.clock
  rw [← agenda]
  cases ready : (Turns.agenda left).ready with
  | nil =>
      dsimp only
      split
      · exact .inr ⟨_, _, rfl, rfl, twins.reach _, undemanding⟩
      · exact .inl ⟨rfl, rfl⟩
  | cons task later =>
      have dequeued : Twins True
          { left with agenda := { Turns.agenda left with ready := later } }
          { right with agenda := { Turns.agenda left with ready := later } } :=
        { twins with clock := rfl, ready := fun _ => rfl }
      have still : Undemanding
          { left with agenda := { Turns.agenda left with ready := later } } := undemanding
      exact .inr ⟨_, _, rfl, rfl, dequeued.resume still task, still.resume task⟩

theorem run (twins : Twins True left right) (undemanding : left.Undemanding) (turns : Nat) :
    Twins True (Turns.run turns left) (Turns.run turns right)
      ∧ (Turns.run turns left).Undemanding := by
  induction turns generalizing left right with
  | zero => exact ⟨twins, undemanding⟩
  | succ turns inductionHypothesis =>
      rcases twins.turn undemanding with ⟨restLeft, restRight⟩
        | ⟨nextLeft, nextRight, turnLeft, turnRight, next, still⟩
      · rw [Turns.run_of_rest restLeft, Turns.run_of_rest restRight]
        exact ⟨twins, undemanding⟩
      · rw [Turns.run_of_turn turnLeft, Turns.run_of_turn turnRight]
        exact inductionHypothesis next still

/-- Twins come to rest as twins, however many turns each of them is allowed. -/
theorem run_to_rest (twins : Twins True left right) (undemanding : left.Undemanding)
    {leftTurns rightTurns : Nat} (leftRests : Turns.turn? (Turns.run leftTurns left) = none)
    (rightRests : Turns.turn? (Turns.run rightTurns right) = none) :
    Twins True (Turns.run leftTurns left) (Turns.run rightTurns right)
      ∧ (Turns.run leftTurns left).Undemanding := by
  obtain ⟨together, still⟩ := twins.run undemanding leftTurns
  rcases together.turn still with ⟨-, rests⟩ | ⟨_, _, turn, -⟩
  · rw [Turns.rest_unique rightRests rests]
    exact ⟨together, still⟩
  · cases leftRests.symm.trans turn

end Twins

end Session

end BoundedScene
