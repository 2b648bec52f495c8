import BoundedScene.Proofs.Moves

/-!
Contract: a scene with its subscribers taken away.

Owns:
- `Session.bare`, the scene without lanes, without a courier, without the reports on its
  bus, and without the tasks of the delivery on its run queue;
- that every function of the scene goes along with `bare`, and that no task of the
  delivery changes the bare scene.

So whatever a scene does on its own, it does as its bare self does it.

Does not own: whole runs.
-/

namespace BoundedScene

/-- A task of the scene itself, not of the delivery of its events. -/
def SceneTask.isOwn : SceneTask → Bool
  | .delivery _ => false
  | _ => true

/-- The bus without the reports, and nobody who reads it. -/
def Delivery.bare (delivery : Delivery) : Delivery where
  feed := { slots := delivery.feed.slots, published := delivery.sceneEvents }
  courier := .finished
  ended := delivery.ended

theorem Delivery.bare_of_same {before after : Delivery}
    (events : after.sceneEvents = before.sceneEvents)
    (slots : after.feed.slots = before.feed.slots) (ended : after.ended = before.ended) :
    after.bare = before.bare := by
  unfold bare
  rw [events, slots, ended]

/-- The delivery reads its bus and reports on it. -/
theorem Delivery.bare_resume (task : DeliveryTask) (delivery : Delivery) :
    (resume task delivery).bare = delivery.bare := by
  obtain ⟨position, courier, reports⟩ := resume_frame task delivery
  exact bare_of_same (sceneEvents_resume task delivery) reports.slots reports.ended

theorem Delivery.bare_permit (delivery : Delivery) (index count : Nat) :
    (delivery.permit index count).bare = delivery.bare :=
  have reports := delivery.permit_reports index count
  bare_of_same (delivery.sceneEvents_permit index count) reports.slots reports.ended

/-- The own tasks are woken as if there were no others. -/
theorem Agenda.own_wakeAll (agenda : Agenda SceneTask) (tasks : List SceneTask) :
    (agenda.wakeAll tasks).ready.filter SceneTask.isOwn
      = ({ agenda with ready := agenda.ready.filter SceneTask.isOwn }.wakeAll
          (tasks.filter SceneTask.isOwn)).ready := by
  have seen := Agenda.seen_wakeAll (Option.guard fun task => SceneTask.isOwn task)
    (fun task other => (Option.guard_eq_some_iff.mp task).1.trans
      (Option.guard_eq_some_iff.mp other).1.symm) agenda tasks
  simp only [Agenda.seen, List.filterMap_eq_filter] at seen
  exact congrArg Agenda.ready seen

namespace Session

variable {V : Type}

/-- The scene with its subscribers taken away. -/
def bare (session : Session V) : Session V :=
  { session with
    agenda := { session.agenda with ready := session.agenda.ready.filter SceneTask.isOwn }
    delivery := session.delivery.bare }

section Fields

variable (session : Session V)

theorem bare_calls : session.bare.calls = session.calls := rfl

theorem bare_control : session.bare.control = session.control := rfl

theorem bare_mailbox : session.bare.mailbox = session.mailbox := rfl

theorem bare_props : session.bare.props = session.props := rfl

theorem bare_subscriptions : session.bare.subscriptions = session.subscriptions := rfl

theorem bare_backend : session.bare.backend = session.backend := rfl

theorem bare_clock : session.bare.clock = session.clock := rfl

end Fields

/-! ## Waking and publishing -/

theorem bare_wakeAll (session : Session V) (tasks : List SceneTask) :
    (session.wakeAll tasks).bare = session.bare.wakeAll (tasks.filter SceneTask.isOwn) := by
  have ready := session.agenda.own_wakeAll tasks
  have clock : (session.agenda.wakeAll tasks).clock
      = ({ session.agenda with ready := session.agenda.ready.filter SceneTask.isOwn }.wakeAll
          (tasks.filter SceneTask.isOwn)).clock := by
    rw [Agenda.clock_wakeAll, Agenda.clock_wakeAll]
  unfold bare wakeAll
  dsimp only
  rw [ready, clock]

theorem bare_wakeOwn (session : Session V) {tasks : List SceneTask}
    (own : ∀ task ∈ tasks, task.isOwn = true) :
    (session.wakeAll tasks).bare = session.bare.wakeAll tasks := by
  rw [bare_wakeAll, List.filter_eq_self.mpr own]

theorem isOwn_of_mem_callTasks {session : Session V} {test : Call V → Bool} {task : SceneTask}
    (member : task ∈ session.callTasks test) : task.isOwn = true := by
  obtain ⟨id, -, rfl⟩ := List.mem_map.mp member
  rfl

theorem isOwn_of_mem_endingWatchers {session : Session V} {task : SceneTask}
    (member : task ∈ session.endingWatchers) : task.isOwn = true := by
  unfold endingWatchers at member
  split at member
  · cases member
  · exact isOwn_of_mem_callTasks member

theorem isOwn_of_mem_stopWatchers {session : Session V} {task : SceneTask}
    (member : task ∈ session.stopWatchers) : task.isOwn = true := by
  rcases List.mem_append.mp member with backend | watcher
  · split at backend
    · cases backend
    · rw [List.mem_singleton.mp backend]
      rfl
  · exact isOwn_of_mem_endingWatchers watcher

theorem isOwn_of_mem_calls {ids : List Nat} {task : SceneTask}
    (member : task ∈ ids.map SceneTask.call) : task.isOwn = true := by
  obtain ⟨id, -, rfl⟩ := List.mem_map.mp member
  rfl

/-- A change of the delivery shows in the bare scene as far as it shows on the bare bus. -/
theorem bare_updateDelivery (session : Session V) (change : Delivery → Delivery) :
    (session.updateDelivery change).bare
      = { session.bare with delivery := (change session.delivery).bare } := by
  have woken : (((change session.delivery).woken.map SceneTask.delivery).filter SceneTask.isOwn)
      = [] := by
    simp [List.filter_eq_nil_iff, SceneTask.isOwn]
  have bare := session.bare_wakeAll ((change session.delivery).woken.map SceneTask.delivery)
  rw [woken] at bare
  exact congrArg (fun reached : Session V =>
    { reached with delivery := (change session.delivery).bare }) bare

/-- What the delivery does among itself leaves the bare scene alone. -/
theorem bare_silent (session : Session V) {change : Delivery → Delivery}
    (silent : (change session.delivery).bare = session.delivery.bare) :
    (session.updateDelivery change).bare = session.bare := by
  rw [bare_updateDelivery, silent]
  rfl

theorem bare_publish (session : Session V) {event : Event} (own : event.isReport = false) :
    (session.publish event).bare = session.bare.publish event := by
  have published : (session.delivery.publish event).bare
      = { session.delivery.bare with feed := session.delivery.bare.feed.publish event } := by
    have events := session.delivery.sceneEvents_publish event
    rw [List.filter_cons_of_pos (by simp [own]), List.filter_nil] at events
    unfold Delivery.bare
    rw [events]
    unfold Delivery.publish Delivery.wakeIf
    split <;> rfl
  refine (session.bare_updateDelivery _).trans ?_
  rw [published]
  rfl

theorem bare_publishAll (events : List Event) (own : ∀ event ∈ events, event.isReport = false)
    (session : Session V) :
    (events.foldl publish session).bare = events.foldl publish session.bare := by
  induction events generalizing session with
  | nil => rfl
  | cons first rest inductionHypothesis =>
      rw [List.forall_mem_cons] at own
      rw [List.foldl_cons, List.foldl_cons, inductionHypothesis own.2, bare_publish _ own.1]

/-! ## Requests and answers -/

theorem bare_updateControl (session : Session V) (control : Supervision.Control SceneError)
    {woken : List SceneTask} (own : ∀ task ∈ woken, task.isOwn = true) :
    (session.updateControl control woken).bare = session.bare.updateControl control woken :=
  bare_wakeOwn { session with control } own

theorem bare_requestStop (session : Session V) :
    session.requestStop.bare = session.bare.requestStop :=
  bare_updateControl (session.record .stopRequested) _ fun _ => isOwn_of_mem_stopWatchers

theorem bare_abort (session : Session V) (cause : Cause) :
    (session.abort cause).bare = session.bare.abort cause := by
  have killed := bare_updateControl (session.record (.aborted cause))
    (session.control.kill (.aborted cause)) fun _ => @isOwn_of_mem_stopWatchers _ session _
  unfold abort
  dsimp only
  rw [apply_ite bare, bare_publish _ (by rfl), killed]
  rfl

theorem bare_conclude (session : Session V) (deadline : Option (TimeoutKind × Span)) :
    (session.conclude deadline).bare = session.bare.conclude deadline :=
  bare_updateControl (session.record (.concluded deadline)) _ fun _ => isOwn_of_mem_endingWatchers

theorem bare_noteHandles (session : Session V) :
    session.noteHandles.bare = session.bare.noteHandles := by
  unfold noteHandles
  rw [apply_ite bare, bare_wakeOwn _ (by simp [SceneTask.isOwn])]
  rfl

theorem bare_answer (session : Session V) (id : Nat) (answer : Answer V) :
    (session.answer id answer).bare = session.bare.answer id answer :=
  bare_noteHandles _

theorem bare_wakeCall (session : Session V) (id : Nat) :
    (session.wakeCall id).bare = session.bare.wakeCall id :=
  session.bare_wakeOwn (by simp [SceneTask.isOwn])

theorem bare_respond (session : Session V) (id : Nat) (reply : ReplySlot V) :
    (session.respond id reply).bare = session.bare.respond id reply := by
  unfold respond
  rw [bare_calls]
  cases session.calls[id]? with
  | none => rfl
  | some call =>
      dsimp only
      rw [apply_ite bare, bare_wakeCall]
      rfl

theorem bare_notify (signal : SignalSlot) (session : Session V) (id : Nat) :
    (notify signal session id).bare = notify signal session.bare id := by
  unfold notify
  rw [bare_calls]
  cases session.calls[id]? with
  | none => rfl
  | some call =>
      dsimp only
      rw [apply_ite bare, bare_wakeCall]
      rfl

theorem bare_notifyAll (signal : SignalSlot) (ids : List Nat) (session : Session V) :
    (ids.foldl (notify signal) session).bare = ids.foldl (notify signal) session.bare := by
  induction ids generalizing session with
  | nil => rfl
  | cons first rest inductionHypothesis =>
      rw [List.foldl_cons, List.foldl_cons, inductionHypothesis, bare_notify]

/-! ## The turn of the backend -/

theorem bare_performAct (session : Session V) (act : CleanupAct) :
    (session.performAct act).bare = session.bare.performAct act := by
  cases act with
  | abort cause => exact session.bare_abort cause
  | _ => rfl

theorem bare_runCleanup (session : Session V) (prop : StoredProp V) :
    session.bare.runCleanup prop
      = ((session.runCleanup prop).1, (session.runCleanup prop).2.bare) := by
  unfold runCleanup
  cases prop.cleanup with
  | none => rfl
  | some cleanup =>
      refine Prod.ext rfl ?_
      show (session.bare.performAct cleanup.act).record _
        = ((session.performAct cleanup.act).record _).bare
      rw [← bare_performAct]
      rfl

theorem bare_runCleanups (props : List (StoredProp V)) (session : Session V) :
    runCleanups props session.bare
      = ((runCleanups props session).1, (runCleanups props session).2.bare) := by
  induction props generalizing session with
  | nil => rfl
  | cons prop rest inductionHypothesis =>
      simp only [runCleanups, bare_runCleanup, inductionHypothesis]

theorem isReport_rejectedEvent (error : SceneError) : (rejectedEvent error).isReport = false := by
  cases error <;> rfl

theorem isReport_cleanupFailedEvent (error : SceneError) :
    (cleanupFailedEvent error).isReport = false := by
  cases error <;> rfl

theorem isReport_endedEvent (removed : Nat) (own : Except SceneError Unit) :
    (endedEvent removed own).isReport = false := by
  cases own <;> rfl

theorem bare_dispose (session : Session V) (key : String) :
    session.bare.dispose key = ((session.dispose key).1, (session.dispose key).2.bare) := by
  unfold dispose
  rw [bare_props]
  cases session.props.remove key with
  | error error => rfl
  | ok removed =>
      obtain ⟨prop, props⟩ := removed
      have cleaned : ({ session.bare with props } : Session V).runCleanup prop = _ :=
        bare_runCleanup { session with props } prop
      dsimp only
      rw [cleaned]
      generalize ({ session with props } : Session V).runCleanup prop = reached
      obtain ⟨failure, reached⟩ := reached
      cases failure with
      | some error => rfl
      | none => exact Prod.ext rfl (reached.bare_publish (by rfl)).symm

theorem bare_execute (session : Session V) (caller : Nat) (command : Command V) :
    session.bare.execute caller command
      = ((session.execute caller command).1, (session.execute caller command).2.bare) := by
  cases command with
  | store prop =>
      unfold execute
      rw [bare_props]
      dsimp only
      cases session.props.store prop with
      | error error => rfl
      | ok props =>
          dsimp only
          rw [bare_publish _ (by rfl)]
          rfl
  | fetch key =>
      unfold execute
      rw [bare_props]
      dsimp only
      cases session.props.fetch key with
      | error error => rfl
      | ok value =>
          dsimp only
          rw [bare_publish _ (by rfl)]
  | dispose key => exact session.bare_dispose key
  | signal topic =>
      unfold execute
      rw [bare_subscriptions, show session.bare.listens = session.listens from rfl]
      dsimp only
      cases session.subscriptions.signal session.listens topic with
      | mk outcome subscriptions =>
          cases outcome with
          | error error => rfl
          | ok woken =>
              dsimp only
              rw [bare_publish _ (by rfl), bare_notifyAll]
              rfl
  | subscribe topic =>
      have published := @bare_publish V session
        ((Event.plain .waiterRegistered).withTopic topic) rfl
      unfold execute
      dsimp only
      rw [← published]
      rfl

theorem bare_publishFailure (session : Session V) (response : Response V) :
    (session.publishFailure response).bare = session.bare.publishFailure response := by
  cases response with
  | error error => exact session.bare_publish (isReport_rejectedEvent error)
  | ok reply => rfl

theorem bare_process (session : Session V) (envelope : Envelope V) :
    (session.process envelope).bare = session.bare.process envelope := by
  unfold process
  rw [bare_execute]
  dsimp only
  rw [bare_respond, ← bare_publishFailure]
  rfl

theorem bare_closeMailbox (session : Session V) :
    session.closeMailbox.bare = session.bare.closeMailbox :=
  bare_wakeOwn { session with mailbox := session.mailbox.close.1 } fun _ => isOwn_of_mem_calls

theorem bare_tearDown (session : Session V) :
    session.bare.tearDown = (session.tearDown.1, session.tearDown.2.bare) :=
  bare_runCleanups _ { session with props := {} }

theorem bare_releaseWaiters (session : Session V) :
    session.releaseWaiters.bare = session.bare.releaseWaiters :=
  bare_notifyAll .released _ { session with subscriptions := {} }

theorem bare_dropQueued (session : Session V) :
    session.dropQueued.bare = session.bare.dropQueued := by
  have dropped (queued : List (Envelope V)) (session : Session V) :
      (queued.foldl (fun session envelope => session.respond envelope.caller .closed)
          session).bare
        = queued.foldl (fun session envelope => session.respond envelope.caller .closed)
          session.bare := by
    induction queued generalizing session with
    | nil => rfl
    | cons first rest inductionHypothesis =>
        rw [List.foldl_cons, List.foldl_cons, inductionHypothesis, bare_respond]
  exact dropped _ { session with mailbox := { session.mailbox with queued := [] } }

theorem bare_storeResult (session : Session V) (own : Except SceneError Unit) :
    (session.storeResult own).bare = session.bare.storeResult own := by
  have woken : ∀ task ∈ session.endingWatchers ++ session.resultWatchers, task.isOwn = true :=
    fun task member => (List.mem_append.mp member).elim isOwn_of_mem_endingWatchers
      isOwn_of_mem_callTasks
  have stored := bare_updateControl
    { session.record (.ended (session.control.resolve own)) with backend := .returned }
    (session.control.finish own) woken
  have told (delivery : Delivery) :
      delivery.tellEnd.bare = { delivery.bare with ended := true } := by
    unfold Delivery.tellEnd Delivery.wakeIf
    split <;> rfl
  unfold storeResult
  dsimp only
  rw [bare_updateDelivery, told, stored]
  rfl

/-- The first part of the end: nobody can enter the mailbox any more. -/
def shutDown (session : Session V) : Session V :=
  (({ session with phase := session.phase.later .ending }).publish
    ((Event.plain .sceneEnding).withCount session.props.size)).closeMailbox

/-- The last part of the end, after the teardown. -/
def takeLeave (removed : Nat) (cause : Option SceneError) (torn : List SceneError × Session V) :
    Session V :=
  let session := ((torn.1.map cleanupFailedEvent).foldl publish torn.2).releaseWaiters
  let own := ownResult cause torn.1
  ((({ session with phase := session.phase.later .ended }).publish
    (endedEvent removed own)).dropQueued).storeResult own

theorem finish_eq (session : Session V) (cause : Option SceneError) :
    session.finish cause = takeLeave session.props.size cause session.shutDown.tearDown :=
  rfl

theorem bare_shutDown (session : Session V) : session.shutDown.bare = session.bare.shutDown := by
  unfold shutDown
  rw [bare_closeMailbox, bare_publish _ (by rfl)]
  rfl

theorem bare_takeLeave (removed : Nat) (cause : Option SceneError) (failures : List SceneError)
    (session : Session V) :
    (takeLeave removed cause (failures, session)).bare
      = takeLeave removed cause (failures, session.bare) := by
  have failed : ∀ event ∈ failures.map cleanupFailedEvent, event.isReport = false := by
    intro event member
    obtain ⟨failure, -, rfl⟩ := List.mem_map.mp member
    exact isReport_cleanupFailedEvent failure
  unfold takeLeave
  dsimp only
  rw [bare_storeResult, bare_dropQueued, bare_publish _ (isReport_endedEvent _ _),
    ← bare_publishAll _ failed, ← bare_releaseWaiters]
  rfl

theorem bare_finish (session : Session V) (cause : Option SceneError) :
    (session.finish cause).bare = session.bare.finish cause := by
  rw [finish_eq, finish_eq, ← bare_shutDown, bare_tearDown, ← bare_takeLeave]
  rfl

theorem bare_timeOut (session : Session V) (kind : TimeoutKind) (after : Span) :
    (session.timeOut kind after).bare = session.bare.timeOut kind after := by
  unfold timeOut
  rw [bare_finish, bare_publish _ (by rfl), bare_conclude]

theorem bare_rearm (session : Session V) : session.rearm.bare = session.bare.rearm := by
  unfold rearm
  rw [bare_backend]
  cases session.backend <;> rfl

theorem bare_serveOne (session : Session V) (envelope : Envelope V)
    (rest : Mailbox (Envelope V) × Option Nat) :
    (session.serveOne envelope rest).bare = session.bare.serveOne envelope rest := by
  have woken := bare_wakeOwn { session with mailbox := rest.1 } fun _ =>
    @isOwn_of_mem_calls rest.2.toList _
  unfold serveOne
  rw [bare_rearm, bare_process, woken]
  rfl

theorem bare_serve (commands : Nat) (session : Session V) :
    (session.serve commands).bare = session.bare.serve commands := by
  have due (session : Session V) : session.bare.dueDeadline? = session.dueDeadline? := rfl
  have held (session : Session V) : session.bare.anyHandle = session.anyHandle := rfl
  induction commands using Nat.strongRecOn generalizing session with
  | ind commands inductionHypothesis =>
      rw [serve_eq, serve_eq, apply_ite bare, bare_control, due, bare_mailbox, held, bare_finish]
      congr 1
      cases session.dueDeadline? with
      | some deadline => exact session.bare_timeOut deadline.1 deadline.2
      | none =>
          cases session.mailbox.take? with
          | none =>
              dsimp only
              rw [apply_ite bare, bare_finish, bare_conclude]
          | some taken =>
              cases commands with
              | zero => rfl
              | succ commands =>
                  dsimp only
                  rw [inductionHypothesis commands (Nat.lt_succ_self commands), bare_serveOne]

theorem isReport_startedEvent (session : Session V) : session.startedEvent.isReport = false := by
  unfold startedEvent
  cases session.absolute <;> cases session.inactivity <;> rfl

theorem bare_openUp (session : Session V) : session.openUp.bare = session.bare.openUp :=
  bare_publish _ (isReport_startedEvent _)

theorem bare_resumeBackend (session : Session V) :
    session.resumeBackend.bare = session.bare.resumeBackend := by
  unfold resumeBackend
  rw [bare_backend]
  cases session.backend with
  | fresh =>
      show (session.openUp.serve _).bare = session.bare.openUp.serve _
      rw [bare_serve, bare_openUp]
      rfl
  | serving absolute inactivity => exact session.bare_serve _
  | _ => rfl

/-! ## The turn of a call -/

theorem bare_awaitResult (session : Session V) (id : Nat) (request : Request V) :
    (session.awaitResult id request).bare = session.bare.awaitResult id request := by
  unfold awaitResult
  rw [show session.bare.result? = session.result? from rfl]
  cases session.result? with
  | some result => exact session.bare_answer id _
  | none => rfl

theorem bare_overtake (session : Session V) (id : Nat) (request : Request V) :
    (session.overtake id request).bare = session.bare.overtake id request :=
  (session.record (.overtaken id)).bare_awaitResult id request

theorem bare_leaveMailbox (session : Session V) (id : Nat) :
    (session.leaveMailbox id).bare = session.bare.leaveMailbox id :=
  bare_wakeOwn { session with mailbox := (session.mailbox.leave id).1 } fun _ => isOwn_of_mem_calls

theorem bare_submit (session : Session V) (id : Nat) (command : Command V) :
    (session.submit id command).bare = session.bare.submit id command := by
  unfold submit
  rw [bare_control, bare_mailbox, apply_ite bare, bare_answer, bare_leaveMailbox]
  congr 1
  dsimp only
  rw [apply_ite bare]
  congr 1
  let entered : Session V :=
    { session with mailbox := session.mailbox.enter id { caller := id, command } }
  have woken := (entered.record (.entered { caller := id, command })).bare_wakeOwn
    (by simp [SceneTask.isOwn] : ∀ task ∈ [SceneTask.backend], task.isOwn = true)
  exact congrArg (fun reached => setStage reached id .awaitingReply) woken

theorem bare_awaitSignal (session : Session V) (id : Nat) (call : Call V) (topic : String)
    (deadline : Option Nat) : (session.awaitSignal id call topic deadline).bare
      = session.bare.awaitSignal id call topic deadline := by
  unfold awaitSignal
  rw [bare_control, bare_clock]
  cases call.signal with
  | raised => exact session.bare_answer id _
  | released => exact session.bare_overtake id _
  | pending =>
      dsimp only
      rw [apply_ite bare, apply_ite bare, bare_overtake, bare_answer]
      rfl

theorem bare_acceptReply (session : Session V) (id : Nat) (call : Call V)
    (response : Response V) :
    (session.acceptReply id call response).bare = session.bare.acceptReply id call response := by
  unfold acceptReply
  dsimp only
  cases response with
  | error error => exact bare_answer _ id _
  | ok reply =>
      dsimp only
      cases call.request with
      | waitSignal topic limit => exact bare_awaitSignal _ id call topic _
      | _ => cases reply <;> exact bare_answer _ id _

theorem bare_awaitReply (session : Session V) (id : Nat) (call : Call V) :
    (session.awaitReply id call).bare = session.bare.awaitReply id call := by
  unfold awaitReply
  rw [bare_control]
  cases call.reply with
  | filled response => exact session.bare_acceptReply id call response
  | closed => exact session.bare_overtake id _
  | pending =>
      dsimp only
      rw [apply_ite bare, bare_overtake]
      rfl

theorem bare_begin (session : Session V) (id : Nat) (call : Call V) :
    (session.begin id call).bare = session.bare.begin id call := by
  unfold begin
  cases call.request with
  | stop =>
      dsimp only
      rw [bare_awaitResult, bare_requestStop]
      rfl
  | wait => exact bare_awaitResult _ id _
  | abort cause =>
      dsimp only
      rw [bare_answer, bare_abort]
      rfl
  | phase => exact bare_answer _ id _
  | _ => exact bare_submit _ id _

theorem bare_resumeCall (session : Session V) (id : Nat) :
    (session.resumeCall id).bare = session.bare.resumeCall id := by
  unfold resumeCall
  rw [bare_calls]
  cases session.calls[id]? with
  | none => rfl
  | some call =>
      dsimp only
      cases call.stage with
      | fresh => exact session.bare_begin id call
      | seekingSlot =>
          unfold seekSlot
          cases call.request.command? with
          | none => rfl
          | some command => exact session.bare_submit id command
      | awaitingReply => exact session.bare_awaitReply id call
      | awaitingSignal deadline =>
          dsimp only
          cases call.request with
          | waitSignal topic limit => exact session.bare_awaitSignal id call topic deadline
          | _ => rfl
      | awaitingResult => exact session.bare_awaitResult id _
      | _ => rfl

/-! ## Deeds -/

theorem bare_makeCall (session : Session V) (request : Request V) :
    (session.makeCall request).bare = session.bare.makeCall request :=
  bare_wakeCall _ _

theorem bare_cancel (session : Session V) (id : Nat) :
    (session.cancel id).bare = session.bare.cancel id := by
  unfold cancel
  rw [bare_calls]
  cases session.calls[id]? with
  | none => rfl
  | some call =>
      dsimp only
      rw [apply_ite bare, bare_noteHandles, bare_leaveMailbox]
      rfl

/-- What a deed is to the bare scene: to release a subscriber is nothing. -/
theorem bare_act (session : Session V) (deed : Deed V) :
    (session.act deed).bare = match deed with
      | .release _ _ => session.bare
      | _ => session.bare.act deed := by
  cases deed with
  | call request => exact session.bare_makeCall request
  | cancel id => exact session.bare_cancel id
  | clone => rfl
  | drop handle => exact bare_noteHandles _
  | release lane count => exact session.bare_silent (session.delivery.bare_permit lane count)
  | dropTasks => rfl

/-! ## Turns and time -/

theorem bare_resume (task : SceneTask) (session : Session V) :
    (resume task session).bare
      = if task.isOwn then resume task session.bare else session.bare := by
  cases task with
  | backend => exact session.bare_resumeBackend
  | call id => exact session.bare_resumeCall id
  | delivery task => exact session.bare_silent (Delivery.bare_resume task session.delivery)

theorem isOwn_of_mem_dueOwners {session : Session V} {task : SceneTask}
    (member : task ∈ Turns.dueOwners session) : task.isOwn = true := by
  obtain ⟨alarm, due, rfl⟩ := List.mem_map.mp member
  have armed : alarm ∈ session.alarms := (List.mem_filter.mp (List.mem_mergeSort.mp due)).1
  unfold alarms at armed
  rcases List.mem_append.mp armed with deadline | waiter
  · obtain ⟨due, -, rfl⟩ := List.mem_map.mp deadline
    rfl
  · obtain ⟨id, -, named⟩ := List.mem_filterMap.mp waiter
    obtain ⟨due, -, rfl⟩ := Option.map_eq_some_iff.mp named
    rfl

theorem bare_reach (instant : Nat) (session : Session V) :
    (Turns.reach instant session).bare = Turns.reach instant session.bare :=
  bare_wakeOwn (Turns.withClock session _) fun _ => isOwn_of_mem_dueOwners

end Session

end BoundedScene
