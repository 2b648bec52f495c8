import BoundedScene.Proofs.Growth.Calling
import BoundedScene.Proofs.Growth.Serving

/-!
Contract: the small steps that every run of a scene is made of.

Owns:
- `Advance`, a small step with the condition under which it is taken;
- `EndCause`, what makes the backend end;
- the growth of the scene in each of these steps;
- what a call was before a step, and what the destruction of the tasks leaves of a scene.

Does not own: the order in which the steps are taken.
-/

namespace BoundedScene

open BoundedScene.Supervision (Control)

namespace Session

variable {V : Type}

/-! ## The steps -/

def isServing (session : Session V) : Prop :=
  ∃ absolute inactivity, session.backend = .serving absolute inactivity

/-- The backend takes an envelope out of the mailbox and processes it. -/
def serveOne (session : Session V) (envelope : Envelope V)
    (rest : Mailbox (Envelope V) × Option Nat) : Session V :=
  ((({ session with mailbox := rest.1 }).wakeAll
    (rest.2.toList.map SceneTask.call)).process envelope).rearm

/-- The first turn of the backend up to its first look around. -/
def openUp (session : Session V) : Session V :=
  let armed := (session.record .opened).arm
  armed.publish armed.startedEvent

/-- The event that tells of a deadline. -/
def timeoutEvent (kind : TimeoutKind) (after : Span) : Event :=
  ((Event.plain .timeoutHit).withReason kind.label).withTimeout after

/-- What makes the backend end: the records and the events before the teardown, the
error that it ends with, and the scene after the end. -/
inductive EndCause (before : Session V) :
    List (Happening V) → List Event → Option SceneError → Session V → Prop where
  | stopped (stopped : before.control.stopRequested = true) :
      EndCause before [] [] none (before.finish none)
  | timedOut {kind : TimeoutKind} {after : Span}
      (unstopped : before.control.stopRequested = false)
      (due : before.dueDeadline? = some (kind, after)) :
      EndCause before [.concluded (some (kind, after))] [timeoutEvent kind after]
        (some (.timeout kind after)) (before.timeOut kind after)
  | abandoned (unstopped : before.control.stopRequested = false)
      (undue : before.dueDeadline? = none) (idle : before.mailbox.take? = none)
      (unheld : before.anyHandle = false) :
      EndCause before [.concluded none] [] none ((before.conclude none).finish none)

/-- A small step of a scene. -/
inductive Advance (before : Session V) : Session V → Prop where
  /-- Nothing happens but to the agenda, the handles and the subscribers. -/
  | drifts {agenda : Agenda SceneTask} {handles : List Bool} {after : Session V}
      (growth : Evolves [] [] [] { before with agenda, handles } after) : Advance before after
  | makes (request : Request V) : Advance before (before.makeCall request)
  | turns {id : Nat} {call : Call V} (found : before.calls[id]? = some call) :
      Advance before (before.resumeCall id)
  | cancels {id : Nat} {call : Call V} (found : before.calls[id]? = some call)
      (unfinished : call.isUnfinished = true) : Advance before (before.cancel id)
  | opens (fresh : before.backend = .fresh) : Advance before before.openUp
  | processes {envelope : Envelope V} {rest : Mailbox (Envelope V) × Option Nat}
      (serving : before.isServing) (unstopped : before.control.stopRequested = false)
      (undue : before.dueDeadline? = none)
      (taken : before.mailbox.take? = some (envelope, rest)) :
      Advance before (before.serveOne envelope rest)
  | ends {log : List (Happening V)} {heralds : List Event} {error : Option SceneError}
      {after : Session V} (serving : before.isServing)
      (cause : EndCause before log heralds error after) : Advance before after
  | loses : Advance before before.dropTasks

/-! ## Their growth -/

theorem makeCall_evolves (session : Session V) (request : Request V) :
    Evolves [] [] [] { session with calls := session.calls ++ [{ request }] }
      (session.makeCall request) :=
  wakeAll_evolves _ _

theorem cancel_evolves (session : Session V) {id : Nat} {call : Call V}
    (found : session.calls[id]? = some call) (unfinished : call.isUnfinished = true) :
    Evolves [.cancelled id] [.stage id .dropped] []
        { session with mailbox := (session.mailbox.leave id).1 } (session.cancel id)
      ∧ MailboxAlerts session.mailbox (session.cancel id) := by
  have noted := session.record_evolves (.cancelled id) rfl
  have dropped := noted.trans (setStage_evolves _ id .dropped)
  obtain ⟨left, alerts⟩ := ((session.record (.cancelled id)).setStage id
    .dropped).leaveMailbox_evolves id
  have gone := (dropped.withMailbox (session.mailbox.leave id).1).trans left
  have noticed := noteHandles_evolves
    (((session.record (.cancelled id)).setStage id .dropped).leaveMailbox id)
  have same : session.cancel id =
      (((session.record (.cancelled id)).setStage id .dropped).leaveMailbox id).noteHandles := by
    unfold cancel
    rw [found]
    simp [unfinished]
  rw [same]
  exact ⟨gone.trans noticed, alerts.mono noticed.mailbox noticed.ready⟩

theorem openUp_evolves (session : Session V) :
    Evolves [.opened] [] [session.startedEvent]
      { session with
        backend := .serving (session.absolute.map session.clock.deadline)
          (session.inactivity.map session.clock.deadline) }
      session.openUp := by
  have armed := (session.record_evolves .opened rfl).withBackend
    (.serving (session.absolute.map session.clock.deadline)
      (session.inactivity.map session.clock.deadline))
  have own : session.startedEvent.isFromBackend = true := by
    unfold startedEvent
    cases session.absolute <;> cases session.inactivity <;> rfl
  exact armed.trans (publishOwn_evolves _ session.startedEvent own)

/-- What serving an envelope puts into the journal. -/
def serveLog (session : Session V) (envelope : Envelope V) : List (Happening V) :=
  (session.effect envelope.caller envelope.command).log
    ++ [.processed (session.entryFor envelope)]

/-- What serving an envelope changes about the calls. -/
def serveChanges (session : Session V) (envelope : Envelope V) : List (CallChange V) :=
  ((session.effect envelope.caller envelope.command).woken.map fun waiter =>
    .signal waiter .raised)
    ++ [.reply envelope.caller (.filled (session.entryFor envelope).response)]

theorem unmoved_serveChanges (session : Session V) (envelope : Envelope V) (id : Nat) :
    ∀ change ∈ session.serveChanges envelope, change.moved? ≠ some id := by
  simp [serveChanges, CallChange.moved?, or_imp, forall_and]

theorem delivery_rearm (session : Session V) : session.rearm.delivery = session.delivery := by
  unfold rearm
  split <;> rfl

theorem agenda_rearm (session : Session V) : session.rearm.agenda = session.agenda := by
  unfold rearm
  split <;> rfl

/-- The scene once an envelope has been taken out, and the sender that this lets in was woken. -/
def relieved (session : Session V) (rest : Mailbox (Envelope V) × Option Nat) : Session V :=
  ({ session with mailbox := rest.1 }).wakeAll (rest.2.toList.map SceneTask.call)

/-- A command is processed, and the inactivity deadline is set anew. -/
theorem serveOne_eq {session : Session V} {absolute inactivity : Option Nat}
    (serving : session.backend = .serving absolute inactivity) (envelope : Envelope V)
    (rest : Mailbox (Envelope V) × Option Nat) :
    session.serveOne envelope rest = { (session.relieved rest).process envelope with
      backend := .serving absolute (((session.relieved rest).process envelope).inactivity.map
        ((session.relieved rest).process envelope).clock.deadline) } := by
  have processed := (session.relieved rest).process_evolves envelope
  have still : ((session.relieved rest).process envelope).backend
      = .serving absolute inactivity := processed.backend.trans serving
  show ((session.relieved rest).process envelope).rearm = _
  unfold rearm
  rw [still]

/-- Serving one envelope is processing it, as far as the records, the calls and the
tables are concerned. -/
theorem serveOne_evolves {session : Session V} (serving : session.isServing)
    (envelope : Envelope V) (rest : Mailbox (Envelope V) × Option Nat) :
    ∃ backend, (∃ absolute inactivity, backend = .serving absolute inactivity)
      ∧ Evolves (session.serveLog envelope) (session.serveChanges envelope)
          [announcement envelope.command (session.entryFor envelope).response
            (session.effect envelope.caller envelope.command).woken]
          { session with
            mailbox := rest.1
            props := (session.effect envelope.caller envelope.command).props
            subscriptions := (session.effect envelope.caller envelope.command).subscriptions
            backend }
          (session.serveOne envelope rest) := by
  obtain ⟨absolute, inactivity, backend⟩ := serving
  have woken : Evolves [] [] [] { session with mailbox := rest.1 } (session.relieved rest) :=
    wakeAll_evolves _ _
  have processed := (session.relieved rest).process_evolves envelope
  let effect := (session.relieved rest).effect envelope.caller envelope.command
  have prepared := (woken.withProps effect.props).withSubscriptions effect.subscriptions
  have served := prepared.trans processed
  rw [serveOne_eq backend]
  exact ⟨_, ⟨absolute, _, rfl⟩, served.withBackend _⟩

theorem serveOne_isServing {session : Session V} (serving : session.isServing)
    (envelope : Envelope V) (rest : Mailbox (Envelope V) × Option Nat) :
    (session.serveOne envelope rest).isServing := by
  obtain ⟨backend, ⟨absolute, inactivity, rfl⟩, growth⟩ := serveOne_evolves serving envelope rest
  exact ⟨absolute, inactivity, growth.backend⟩

/-- The result that is stored when the backend ends because of an error or none,
after the records `log`. -/
def resultAfter (session : Session V) (log : List (Happening V))
    (error : Option SceneError) : Except SceneError Unit :=
  ((log ++ session.teardownLog).foldl steer session.control).resolve
    (ownResult error session.teardownFailures)

/-- Everything that the end puts into the journal. -/
def endLog (session : Session V) (log : List (Happening V)) (error : Option SceneError) :
    List (Happening V) :=
  log ++ session.teardownLog ++ [.ended (session.resultAfter log error)]

/-- What the end changes about the calls. -/
def endChanges (session : Session V) : List (CallChange V) :=
  (session.subscriptions.allWaiters.map fun waiter => .signal waiter .released)
    ++ session.mailbox.queued.map fun envelope => .reply envelope.caller .closed

theorem unmoved_endChanges (session : Session V) (id : Nat) :
    ∀ change ∈ session.endChanges, change.moved? ≠ some id := by
  simp [endChanges, CallChange.moved?, or_imp, forall_and]

/-- The scene after the end, as far as its tables are concerned. -/
def emptied (session : Session V) : Session V :=
  { session with
    phase := (session.phase.later .ending).later .ended
    mailbox := { session.mailbox.close.1 with queued := [] }
    props := {}
    subscriptions := {}
    backend := .returned }

/-- The end of a scene that grew by records and events since `before`. -/
theorem finish_after {before middle : Session V} {log : List (Happening V)}
    {heralds : List Event} (growth : Evolves log [] heralds before middle)
    (error : Option SceneError) :
    Evolves (before.endLog log error) before.endChanges
      (heralds ++ farewell before.props.size error before.teardownFailures) before.emptied
      (middle.finish error) := by
  have sameLog : middle.teardownLog = before.teardownLog := by
    unfold teardownLog
    rw [growth.visiting, growth.props, growth.phase]
  have sameFailures : middle.teardownFailures = before.teardownFailures := by
    unfold teardownFailures
    rw [growth.visiting, growth.props]
  have sameResult : middle.terminalResult error = before.resultAfter log error := by
    unfold terminalResult resultAfter
    rw [sameLog, sameFailures, growth.control, List.foldl_append]
  have finished := middle.finish_evolves error
  rw [sameLog, sameFailures, sameResult, growth.props, growth.subscriptions, growth.mailbox,
    growth.phase] at finished
  have prepared := ((((growth.withPhase ((before.phase.later .ending).later .ended)).withMailbox
    { before.mailbox.close.1 with queued := [] }).withProps {}).withSubscriptions {}).withBackend
      .returned
  have whole := prepared.trans finished
  rwa [← List.append_assoc] at whole

section Ends

variable {before after : Session V} {log : List (Happening V)} {heralds : List Event}
  {error : Option SceneError} (cause : EndCause before log heralds error after)
include cause

/-- Every end goes through the same teardown. -/
theorem EndCause.evolves :
    Evolves (before.endLog log error) before.endChanges
      (heralds ++ farewell before.props.size error before.teardownFailures) before.emptied
      after := by
  cases cause with
  | stopped stopped => exact finish_after (Evolves.refl before) none
  | @timedOut kind after unstopped due =>
      have told := (before.conclude_evolves (some (kind, after))).trans
        (publishOwn_evolves _ (timeoutEvent kind after) rfl)
      exact finish_after told (some (.timeout kind after))
  | abandoned unstopped undue idle unheld =>
      exact finish_after (before.conclude_evolves none) none

theorem EndCause.backend : after.backend = .returned :=
  cause.evolves.backend

theorem EndCause.happenings : after.happenings = before.happenings ++ before.endLog log error :=
  cause.evolves.happenings

theorem EndCause.control :
    after.control = (before.endLog log error).foldl steer before.control :=
  cause.evolves.control

theorem EndCause.visiting : after.visiting = before.visiting :=
  cause.evolves.visiting

theorem EndCause.ending : after.control.ending = true := by
  rw [cause.control, endLog, List.foldl_append]
  rfl

/-- A scene that comes to its end has a result, failed cleanups and the error included. -/
theorem EndCause.outcome : after.control.outcome = some (before.resultAfter log error) := by
  rw [cause.control, endLog, List.foldl_append]
  rfl

end Ends

/-! ## The destruction of the tasks -/

section Origins

variable {before after : Session V} {id : Nat} {call : Call V}

theorem backendRuns_dropTasks (session : Session V) : session.dropTasks.backendRuns = false := by
  cases backend : session.backend <;> simp [dropTasks, backendRuns, backend]

/-- A backend that has stopped stays as it is. -/
theorem backend_dropTasks_of_halted (halted : before.backendRuns = false) :
    before.dropTasks.backend = before.backend := by
  simp [dropTasks, halted]

theorem backend_dropTasks_returned :
    before.dropTasks.backend = .returned ↔ before.backend = .returned := by
  cases backend : before.backend <;> simp [dropTasks, backendRuns, backend]

/-! ## Where the calls come from -/

/-- A call that its changes do not move stays where it is. -/
theorem origin_of_unmoved {changes : List (CallChange V)}
    (calls : ∀ id : Nat, after.calls[id]? = before.calls[id]?.map (Call.applyAll id changes))
    (unmoved : ∀ change ∈ changes, change.moved? ≠ some id)
    (found : after.calls[id]? = some call) :
    ∃ old : Call V, before.calls[id]? = some old ∧ old.stage = call.stage
      ∧ old.request = call.request := by
  rw [calls] at found
  obtain ⟨old, present, rfl⟩ := Option.map_eq_some_iff.mp found
  exact ⟨old, present, (Call.applyAll_stage unmoved old).symm,
    (Call.applyAll_request changes old).symm⟩

theorem origin_of_makeCall {request : Request V}
    (found : (before.makeCall request).calls[id]? = some call) (begun : call.stage ≠ .fresh) :
    ∃ old : Call V, before.calls[id]? = some old ∧ old.stage = call.stage
      ∧ old.request = call.request := by
  replace found : (before.calls ++ [({ request } : Call V)])[id]? = some call := found
  rw [List.getElem?_append] at found
  split at found
  · exact ⟨call, found, rfl, rfl⟩
  · rw [List.mem_singleton.mp (List.mem_of_getElem? found)] at begun
    exact absurd rfl begun

theorem origin_of_cancel {cancelled : Nat} {old : Call V}
    (present : before.calls[cancelled]? = some old) (unfinished : old.isUnfinished = true)
    (found : (before.cancel cancelled).calls[id]? = some call) (kept : call.stage ≠ .dropped) :
    ∃ old : Call V, before.calls[id]? = some old ∧ old.stage = call.stage
      ∧ old.request = call.request := by
  have growth := (before.cancel_evolves present unfinished).1
  refine origin_of_unmoved growth.calls (fun change member => ?_) found
  obtain rfl := List.mem_singleton.mp member
  intro moved
  obtain rfl : cancelled = id := Option.some.inj moved
  rw [growth.calls, Option.map_eq_some_iff] at found
  obtain ⟨old, -, rfl⟩ := found
  simp [Call.apply] at kept

theorem calls_dropTasks (session : Session V) (id : Nat) :
    session.dropTasks.calls[id]? = session.calls[id]?.map fun call =>
      if call.isUnfinished then { call with stage := .dropped } else call :=
  List.getElem?_map ..

/-- A call is afterwards what it was, given up if it was under way. -/
theorem origin_of_dropTasks (found : before.dropTasks.calls[id]? = some call) :
    ∃ old, before.calls[id]? = some old
      ∧ call = if old.isUnfinished then { old with stage := .dropped } else old := by
  rw [calls_dropTasks] at found
  obtain ⟨old, present, rfl⟩ := Option.map_eq_some_iff.mp found
  exact ⟨old, present, rfl⟩

end Origins

end Session

end BoundedScene
