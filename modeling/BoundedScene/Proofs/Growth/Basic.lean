import BoundedScene.Proofs.Agenda
import BoundedScene.Proofs.Carriage
import BoundedScene.Scene.Run

/-!
Contract: how a scene grows while its tables stay as they are.

Owns:
- `CallChange`, what can be changed about a call;
- `Evolves`, the growth of a scene by records, changes of calls and events of
  the scene;
- the growth that publishing, noting, answering and waking amount to.

Time passes only while a cleanup runs, so the instants of the records follow from
the records themselves.

Does not own: the turns of the tasks.
-/

namespace BoundedScene

open BoundedScene.Supervision (Control)

/-! ## The time that records take -/

namespace Happening

variable {V : Type}

/-- How long something took that is recorded when it is over. -/
def duration : Happening V → Nat
  | .cleaned run =>
      match run.cleanup.act with
      | .pass time => time.nanoseconds
      | _ => 0
  | _ => 0

/-- How long all of it took. -/
def elapsed : List (Happening V) → Nat
  | [] => 0
  | first :: later => first.duration + elapsed later

@[simp] theorem elapsed_append (first second : List (Happening V)) :
    elapsed (first ++ second) = elapsed first + elapsed second := by
  induction first with
  | nil => simp [elapsed]
  | cons happening later inductionHypothesis =>
      rw [List.cons_append, elapsed, elapsed, inductionHypothesis, Nat.add_assoc]

end Happening

/-- The records of what happens one after the other from an instant on. -/
def Record.sequence {V : Type} : Nat → List (Happening V) → List (Record V)
  | _, [] => []
  | start, happening :: later =>
      { instant := start + happening.duration, happening }
        :: sequence (start + happening.duration) later

namespace Record

variable {V : Type}

theorem sequence_append (start : Nat) (first second : List (Happening V)) :
    sequence start (first ++ second)
      = sequence start first ++ sequence (start + Happening.elapsed first) second := by
  induction first generalizing start with
  | nil => rfl
  | cons happening later inductionHypothesis =>
      simp [sequence, inductionHypothesis, Happening.elapsed, Nat.add_assoc]

theorem happening_sequence (start : Nat) (log : List (Happening V)) :
    (sequence start log).map Record.happening = log := by
  induction log generalizing start with
  | nil => rfl
  | cons happening later inductionHypothesis =>
      rw [sequence, List.map_cons, inductionHypothesis]

end Record

/-! ## Changes of calls -/

/-- A change of one call.  A reply or a signal reaches it only if it listens; its
reply is shut and its stage is set by nobody but the call itself, or by whoever
gives it up. -/
inductive CallChange (V : Type) where
  | reply (target : Nat) (slot : ReplySlot V)
  | signal (target : Nat) (slot : SignalSlot)
  | shut (target : Nat)
  | stage (target : Nat) (stage : Stage V)

/-- The call that is moved by a change, rather than reached by it. -/
def CallChange.moved? {V : Type} : CallChange V → Option Nat
  | .reply _ _ => none
  | .signal _ _ => none
  | .shut target => some target
  | .stage target _ => some target

namespace Call

variable {V : Type}

/-- The call number `id` after a change. -/
def apply (id : Nat) (call : Call V) : CallChange V → Call V
  | .reply target slot =>
      if target = id ∧ call.awaitsReply then { call with reply := slot } else call
  | .signal target slot =>
      if target = id ∧ call.listens then { call with signal := slot } else call
  | .shut target => if target = id then { call with reply := .closed } else call
  | .stage target stage => if target = id then { call with stage } else call

/-- The call number `id` after changes, in order. -/
def applyAll (id : Nat) (changes : List (CallChange V)) (call : Call V) : Call V :=
  changes.foldl (apply id) call

@[simp] theorem applyAll_nil (id : Nat) (call : Call V) : applyAll id [] call = call :=
  rfl

@[simp] theorem applyAll_cons (id : Nat) (first : CallChange V) (rest : List (CallChange V))
    (call : Call V) :
    applyAll id (first :: rest) call = applyAll id rest (apply id call first) :=
  rfl

/-- A call comes to a stage of its own. -/
theorem applyAll_staged (id : Nat) (stage : Stage V) (call : Call V) :
    applyAll id [.stage id stage] call = { call with stage } := by
  simp [apply]

theorem applyAll_append (id : Nat) (first second : List (CallChange V)) (call : Call V) :
    applyAll id (first ++ second) call = applyAll id second (applyAll id first call) :=
  List.foldl_append

theorem apply_stage {id : Nat} {change : CallChange V} (unmoved : change.moved? ≠ some id)
    (call : Call V) : (apply id call change).stage = call.stage := by
  cases change with
  | reply => simp only [apply]; split <;> rfl
  | signal => simp only [apply]; split <;> rfl
  | shut => simp only [apply]; split <;> rfl
  | stage target stage =>
      have other : target ≠ id := fun same => unmoved (congrArg some same)
      simp [apply, other]

theorem applyAll_stage {id : Nat} {changes : List (CallChange V)}
    (unmoved : ∀ change ∈ changes, change.moved? ≠ some id) (call : Call V) :
    (applyAll id changes call).stage = call.stage := by
  induction changes generalizing call with
  | nil => rfl
  | cons first rest inductionHypothesis =>
      have tail := inductionHypothesis
        (fun change member => unmoved change (List.mem_cons_of_mem _ member)) (apply id call first)
      rw [applyAll_cons, tail]
      exact apply_stage (unmoved first (List.mem_cons_self ..)) call

/-- The changes of a call leave its request alone. -/
theorem applyAll_request {id : Nat} (changes : List (CallChange V)) (call : Call V) :
    (applyAll id changes call).request = call.request := by
  induction changes generalizing call with
  | nil => rfl
  | cons first rest inductionHypothesis =>
      rw [applyAll_cons, inductionHypothesis]
      cases first <;> simp only [apply] <;> split <;> rfl

end Call

namespace Session

variable {V : Type}

/-! ## Growth -/

/-- The control surface after something happened. -/
def steer (control : Control SceneError) : Happening V → Control SceneError
  | .stopRequested => control.requestStop
  | .aborted cause => control.kill (.aborted cause)
  | .concluded _ => control.conclude
  | .ended result => { control with ending := true, outcome := some result }
  | _ => control

/-- The events that the backend published. -/
def backendEvents (session : Session V) : List Event :=
  session.delivery.backendEvents

/-- The abort requests that were published. -/
def abortEvents (session : Session V) : List Event :=
  session.delivery.abortEvents

/-- The event with which an abort is announced. -/
def abortNotice (cause : Cause) : Event :=
  (Event.plain .abortRequested).withReason (SceneError.aborted cause).message

/-- The abort request that a record gives rise to: an abort that is recorded as terminal
is announced. -/
def notice (control : Control SceneError) : Happening V → List Event
  | .aborted cause => if control.acceptsKill then [abortNotice cause] else []
  | _ => []

/-- The abort requests that records give rise to, one after the other. -/
def notices (control : Control SceneError) : List (Happening V) → List Event
  | [] => []
  | first :: later => notice control first ++ notices (steer control first) later

theorem notices_append (control : Control SceneError) (first second : List (Happening V)) :
    notices control (first ++ second)
      = notices control first ++ notices (first.foldl steer control) second := by
  induction first generalizing control with
  | nil => rfl
  | cons happening later inductionHypothesis =>
      rw [List.cons_append, notices, notices, inductionHypothesis, List.append_assoc]
      rfl

/-- A call of `before` that can go on in `after` for a reason that it lacked: its
reply or its signal has changed, the scene has started to end, or there is a result. -/
def Stirred (changes : List (CallChange V)) (before after : Session V) (id : Nat)
    (call : Call V) : Prop :=
  (Call.applyAll id changes call).reply ≠ call.reply
    ∨ (Call.applyAll id changes call).signal ≠ call.signal
    ∨ (before.control.ending = false ∧ after.control.ending = true
        ∧ call.watchesEnding = true)
    ∨ (before.result? = none ∧ after.result?.isSome = true ∧ call.watchesResult = true)

theorem not_stirred {changes : List (CallChange V)} {before after : Session V} {id : Nat}
    {call : Call V} (sameControl : after.control = before.control)
    (sameReply : (Call.applyAll id changes call).reply = call.reply)
    (sameSignal : (Call.applyAll id changes call).signal = call.signal) :
    ¬Stirred changes before after id call := by
  rintro (changed | changed | ⟨unended, ending, -⟩ | ⟨unset, set, -⟩)
  · exact changed sameReply
  · exact changed sameSignal
  · rw [sameControl, unended] at ending
    exact Bool.false_ne_true ending
  · have sameResult : after.result? = before.result? := by
      unfold result?
      rw [sameControl]
    rw [sameResult, unset] at set
    exact Bool.false_ne_true set

/-- Whoever gets a reason to go on is ready afterwards: each call that was stirred
without being moved, and the backend once a stop was requested. -/
structure Alerts (changes : List (CallChange V)) (before after : Session V) : Prop where
  calls : ∀ id call, before.calls[id]? = some call →
    (∀ change ∈ changes, change.moved? ≠ some id) →
      Stirred changes before after id call → .call id ∈ after.agenda.ready
  backend : before.control.stopRequested = false → after.control.stopRequested = true →
    .backend ∈ after.agenda.ready

/-- Nobody gets a reason to go on where the control surface, the replies and the signals of
the calls stay as they are. -/
theorem alerts_of_steady {changes : List (CallChange V)} {before after : Session V}
    (sameControl : after.control = before.control)
    (sameSlots : ∀ id call, before.calls[id]? = some call →
      (∀ change ∈ changes, change.moved? ≠ some id) →
        (Call.applyAll id changes call).reply = call.reply
          ∧ (Call.applyAll id changes call).signal = call.signal) :
    Alerts changes before after where
  calls id call found unmoved stirred :=
    have same := sameSlots id call found unmoved
    absurd stirred (not_stirred sameControl same.1 same.2)
  backend unset set := by
    rw [sameControl, unset] at set
    exact absurd set Bool.false_ne_true

/-- `after` is `before` with more records, with changed calls and with more
events of the backend.  The control surface, the clock and the abort requests follow
the records.  The delivery to the subscribers goes on by small steps.  Whoever was ready
still is, in the same order, and whoever got a reason to go on is ready as well. -/
structure Evolves (log : List (Happening V)) (changes : List (CallChange V)) (events : List Event)
    (before after : Session V) : Prop where
  props : after.props = before.props
  subscriptions : after.subscriptions = before.subscriptions
  mailbox : after.mailbox = before.mailbox
  backend : after.backend = before.backend
  phase : after.phase = before.phase
  handles : after.handles = before.handles
  visiting : after.visiting = before.visiting
  inactivity : after.inactivity = before.inactivity
  absolute : after.absolute = before.absolute
  journal : after.journal = before.journal ++ Record.sequence before.clock.now log
  control : after.control = log.foldl steer before.control
  calls : ∀ id : Nat, after.calls[id]? = before.calls[id]?.map (Call.applyAll id changes)
  events : after.backendEvents = before.backendEvents ++ events
  notices : after.abortEvents = before.abortEvents ++ notices before.control log
  delivery : Delivery.Changes before.delivery after.delivery
  agenda : Agenda.Grows (Happening.elapsed log) before.agenda after.agenda
  alerts : Alerts changes before after

namespace Evolves

variable {log log₁ log₂ : List (Happening V)} {changes changes₁ changes₂ : List (CallChange V)}
  {events events₁ events₂ : List Event} {before middle after : Session V}

theorem refl (session : Session V) : Evolves [] [] [] session session := by
  constructor
  case calls => intro id; cases session.calls[id]? <;> rfl
  case agenda => exact Agenda.Grows.refl session.agenda
  case delivery => exact .refl
  case alerts => exact alerts_of_steady rfl fun _ _ _ _ => ⟨rfl, rfl⟩
  all_goals simp [Record.sequence, Session.notices]

theorem happenings (growth : Evolves log changes events before after) :
    after.happenings = before.happenings ++ log := by
  unfold Session.happenings
  rw [growth.journal, List.map_append, Record.happening_sequence]

theorem now (growth : Evolves log changes events before after) :
    after.clock.now = before.clock.now + Happening.elapsed log :=
  growth.agenda.now

theorem ready (growth : Evolves log changes events before after) (task : SceneTask)
    (member : task ∈ before.agenda.ready) : task ∈ after.agenda.ready :=
  growth.agenda.queue.subset member

/-- A call stirred by two steps in a row was stirred by one of them. -/
theorem stirred_split {id : Nat} {call : Call V}
    (unmoved : ∀ change ∈ changes₁, change.moved? ≠ some id)
    (stirred : Stirred (changes₁ ++ changes₂) before after id call) :
    Stirred changes₁ before middle id call
      ∨ Stirred changes₂ middle after id (Call.applyAll id changes₁ call) := by
  have sameStage := Call.applyAll_stage unmoved call
  by_cases already : Stirred changes₁ before middle id call
  · exact .inl already
  · refine .inr ?_
    simp only [Stirred, not_or] at already
    obtain ⟨sameReply, sameSignal, notEnding, noResult⟩ := already
    rcases stirred with changed | changed | ⟨unended, ending, watches⟩ | ⟨unset, set, watches⟩
    · refine .inl fun still => changed ?_
      rw [Call.applyAll_append, still]
      exact Classical.not_not.mp sameReply
    · refine .inr (.inl fun still => changed ?_)
      rw [Call.applyAll_append, still]
      exact Classical.not_not.mp sameSignal
    · refine .inr (.inr (.inl ⟨?_, ending, ?_⟩))
      · cases flag : middle.control.ending with
        | false => rfl
        | true => exact absurd ⟨unended, flag, watches⟩ notEnding
      · rwa [Call.watchesEnding, sameStage]
    · refine .inr (.inr (.inr ⟨?_, set, ?_⟩))
      · cases stored : middle.result? with
        | none => rfl
        | some result => exact absurd ⟨unset, by simp [stored], watches⟩ noResult
      · rwa [Call.watchesResult, sameStage]

theorem trans (first : Evolves log₁ changes₁ events₁ before middle)
    (second : Evolves log₂ changes₂ events₂ middle after) :
    Evolves (log₁ ++ log₂) (changes₁ ++ changes₂) (events₁ ++ events₂) before after where
  props := second.props.trans first.props
  subscriptions := second.subscriptions.trans first.subscriptions
  mailbox := second.mailbox.trans first.mailbox
  backend := second.backend.trans first.backend
  phase := second.phase.trans first.phase
  handles := second.handles.trans first.handles
  visiting := second.visiting.trans first.visiting
  inactivity := second.inactivity.trans first.inactivity
  absolute := second.absolute.trans first.absolute
  journal := by
    rw [second.journal, first.journal, first.now, Record.sequence_append, List.append_assoc]
  control := by rw [second.control, first.control, List.foldl_append]
  calls id := by
    rw [second.calls, first.calls, Option.map_map]
    congr 1
    funext call
    exact (Call.applyAll_append id changes₁ changes₂ call).symm
  events := by rw [second.events, first.events, List.append_assoc]
  notices := by
    rw [second.notices, first.notices, notices_append, first.control, List.append_assoc]
  delivery := Relation.ReflTransGen.trans first.delivery second.delivery
  agenda := by
    rw [Happening.elapsed_append]
    exact first.agenda.trans second.agenda
  alerts := {
    calls := fun id call found unmoved stirred => by
      have early : ∀ change ∈ changes₁, change.moved? ≠ some id := fun change member =>
        unmoved change (List.mem_append_left _ member)
      have late : ∀ change ∈ changes₂, change.moved? ≠ some id := fun change member =>
        unmoved change (List.mem_append_right _ member)
      rcases stirred_split early stirred with already | again
      · exact second.ready _ (first.alerts.calls id call found early already)
      · refine second.alerts.calls id _ ?_ late again
        rw [first.calls, found, Option.map_some]
    backend := fun unset set => by
      cases flag : middle.control.stopRequested with
      | false => exact second.alerts.backend flag set
      | true => exact second.ready _ (first.alerts.backend unset flag) }

/-! A table that is replaced before the growth is replaced after it as well. -/

theorem withProps (growth : Evolves log changes events before after) (props : PropTable V) :
    Evolves log changes events { before with props } { after with props } :=
  { growth with
    props := rfl
    alerts := ⟨growth.alerts.calls, growth.alerts.backend⟩ }

theorem withSubscriptions (growth : Evolves log changes events before after)
    (subscriptions : Subscriptions) :
    Evolves log changes events { before with subscriptions } { after with subscriptions } :=
  { growth with
    subscriptions := rfl
    alerts := ⟨growth.alerts.calls, growth.alerts.backend⟩ }

theorem withMailbox (growth : Evolves log changes events before after)
    (mailbox : Mailbox (Envelope V)) :
    Evolves log changes events { before with mailbox } { after with mailbox } :=
  { growth with
    mailbox := rfl
    alerts := ⟨growth.alerts.calls, growth.alerts.backend⟩ }

theorem withBackend (growth : Evolves log changes events before after) (backend : Backend) :
    Evolves log changes events { before with backend } { after with backend } :=
  { growth with
    backend := rfl
    alerts := ⟨growth.alerts.calls, growth.alerts.backend⟩ }

theorem withPhase (growth : Evolves log changes events before after) (phase : Phase) :
    Evolves log changes events { before with phase } { after with phase } :=
  { growth with
    phase := rfl
    alerts := ⟨growth.alerts.calls, growth.alerts.backend⟩ }

end Evolves

/-! ## Single steps -/

/-- A step that leaves the records and the control surface alone stirs nobody. -/
theorem wakeAll_evolves (session : Session V) (tasks : List SceneTask) :
    Evolves [] [] [] session (session.wakeAll tasks) :=
  { Evolves.refl session with
    agenda := session.agenda.grows_wakeAll tasks
    alerts := alerts_of_steady rfl fun _ _ _ _ => ⟨rfl, rfl⟩ }

/-- A record that changes nothing is noted when what it tells of is over. -/
theorem record_evolves (session : Session V) (happening : Happening V)
    (steady : steer session.control happening = session.control)
    (unannounced : notices session.control [happening] = [] := by rfl)
    (brief : happening.duration = 0 := by rfl) :
    Evolves [happening] [] [] session (session.record happening) :=
  { Evolves.refl session with
    journal := by simp [record, Record.sequence, brief]
    control := steady.symm
    notices := by
      rw [unannounced, List.append_nil]
      rfl
    agenda := by
      have instantaneous : Happening.elapsed [happening] = 0 := by simp [Happening.elapsed, brief]
      rw [instantaneous]
      exact .refl _
    alerts := alerts_of_steady rfl fun _ _ _ _ => ⟨rfl, rfl⟩ }

theorem mem_callTasks (session : Session V) (test : Call V → Bool) {id : Nat} {call : Call V}
    (found : session.calls[id]? = some call) (passes : test call = true) :
    SceneTask.call id ∈ session.callTasks test := by
  have inRange : id < session.calls.length := (List.getElem?_eq_some_iff.mp found).1
  unfold callTasks
  refine List.mem_map_of_mem (List.mem_filter.mpr ⟨List.mem_range.mpr inRange, ?_⟩)
  rw [found]
  exact passes

/-! ## Events -/

/-- What happens to the subscribers is no event of the scene. -/
theorem events_of_silent {before after : Session V}
    (silent : after.delivery.sceneEvents = before.delivery.sceneEvents) :
    after.backendEvents = before.backendEvents ∧ after.abortEvents = before.abortEvents := by
  unfold backendEvents abortEvents
  rw [Delivery.backendEvents_eq, Delivery.backendEvents_eq, Delivery.abortEvents_eq,
    Delivery.abortEvents_eq, silent]
  exact ⟨rfl, rfl⟩

theorem updateDelivery_evolves (session : Session V) (change : Delivery → Delivery)
    (silent : (change session.delivery).sceneEvents = session.delivery.sceneEvents)
    (changes : Delivery.Changes session.delivery (change session.delivery)) :
    Evolves [] [] [] session (session.updateDelivery change) := by
  obtain ⟨events, notices⟩ : (session.updateDelivery change).backendEvents = session.backendEvents
      ∧ (session.updateDelivery change).abortEvents = session.abortEvents :=
    events_of_silent silent
  exact { Evolves.refl session with
    events := events.trans (List.append_nil _).symm
    notices := notices.trans (List.append_nil _).symm
    delivery := changes.tail (.wakes [])
    agenda := session.agenda.grows_wakeAll _
    alerts := alerts_of_steady rfl fun _ _ _ _ => ⟨rfl, rfl⟩ }

theorem resumeDelivery_evolves (session : Session V) (task : DeliveryTask) :
    Evolves [] [] [] session (session.updateDelivery (Delivery.resume task)) :=
  session.updateDelivery_evolves _ (Delivery.sceneEvents_resume task session.delivery)
    (session.delivery.resume_changes task)

theorem release_evolves (session : Session V) (lane count : Nat) :
    Evolves [] [] [] session
      (session.updateDelivery fun delivery => delivery.permit lane count) :=
  session.updateDelivery_evolves _ (Delivery.sceneEvents_permit session.delivery lane count)
    (.single (.permits lane count))

/-- Publishing concerns nothing but the delivery and the tasks that it wakes. -/
theorem publishAll_frame (events : List Event) (session : Session V) :
    ∃ agenda delivery, events.foldl publish session = { session with agenda, delivery }
      ∧ Agenda.Grows 0 session.agenda agenda
      ∧ Delivery.Changes session.delivery delivery
      ∧ delivery.sceneEvents
        = session.delivery.sceneEvents ++ events.filter fun event => !event.isReport := by
  induction events generalizing session with
  | nil => exact ⟨_, _, rfl, .refl _, .refl, (List.append_nil _).symm⟩
  | cons first rest inductionHypothesis =>
      obtain ⟨agenda, delivery, same, grows, changes, told⟩ :=
        inductionHypothesis (session.publish first)
      refine ⟨agenda, delivery, same, (session.agenda.grows_wakeAll _).trans grows,
        .head (.publishes first) (.head (.wakes []) changes), ?_⟩
      have head := Delivery.sceneEvents_publish session.delivery first
      have later : (session.publish first).delivery.sceneEvents
          = (session.delivery.publish first).sceneEvents := rfl
      rw [told, later, head, List.append_assoc, ← List.filter_append]
      rfl

/-- The events of the scene, sorted by who publishes them. -/
theorem events_publishAll (events : List Event) (session : Session V) :
    (events.foldl publish session).backendEvents
        = session.backendEvents ++ events.filter Event.isFromBackend
      ∧ (events.foldl publish session).abortEvents
        = session.abortEvents ++ events.filter Event.isAbort := by
  obtain ⟨agenda, delivery, same, -, -, told⟩ := session.publishAll_frame events
  have sorted (test : Event → Bool) (concerns : ∀ event, test event = true →
      event.isReport = false) :
      (events.filter fun event => !event.isReport).filter test = events.filter test := by
    rw [List.filter_filter]
    refine List.filter_congr fun event _ => ?_
    cases passes : test event with
    | true => simp [concerns event passes]
    | false => rfl
  rw [same]
  unfold backendEvents abortEvents
  rw [Delivery.backendEvents_eq, Delivery.backendEvents_eq, Delivery.abortEvents_eq,
    Delivery.abortEvents_eq, told, List.filter_append, List.filter_append, sorted _ ?_, sorted _ ?_]
  · exact ⟨rfl, rfl⟩
  all_goals
    intro event passes
    cases kind : event.kind <;>
      simp_all [Event.isAbort, Event.isFromBackend, Event.isReport, Event.isOverflow, Event.isPanic]

theorem publishAll_evolves (events : List Event)
    (own : ∀ event ∈ events, event.isFromBackend = true) (session : Session V) :
    Evolves [] [] events session (events.foldl publish session) := by
  obtain ⟨told, requested⟩ := session.events_publishAll events
  obtain ⟨agenda, delivery, same, grows, changes, -⟩ := session.publishAll_frame events
  have harmless : ∀ event ∈ events, ¬event.isAbort = true := by
    intro event member aborts
    have kind : event.kind = .abortRequested := by simpa [Event.isAbort] using aborts
    have published := own event member
    simp [Event.isFromBackend, kind] at published
  rw [List.filter_eq_self.mpr own] at told
  rw [List.filter_eq_nil_iff.mpr harmless] at requested
  rw [same] at told requested ⊢
  exact { Evolves.refl session with
    events := told
    notices := requested
    delivery := changes
    agenda := grows
    alerts := alerts_of_steady rfl fun _ _ _ _ => ⟨rfl, rfl⟩ }

theorem publishOwn_evolves (session : Session V) (event : Event)
    (own : event.isFromBackend = true) :
    Evolves [] [] [event] session (session.publish event) :=
  session.publishAll_evolves [event] (by simpa using own)

/-! ## The control surface -/

/-- A record that concerns the control surface comes with its change, wakes whoever
watches for it and is announced if it is an abort that counts. -/
theorem record_updateControl_evolves (session : Session V) (happening : Happening V)
    (brief : happening.duration = 0) (woken : List SceneTask)
    (watchEnding : ∀ task ∈ session.endingWatchers, task ∈ woken)
    (watchStop : (steer session.control happening).stopRequested = session.control.stopRequested
        ∨ ∀ task ∈ session.stopWatchers, task ∈ woken)
    (watchResult : (steer session.control happening).result?
          (.ofAbandonment Abandonment.dropped) = session.result?
        ∨ ∀ task ∈ session.resultWatchers, task ∈ woken) :
    Evolves [happening] [] [] session
      ((notice session.control happening).foldl publish
        ((session.record happening).updateControl (steer session.control happening) woken)) := by
  let steered := (session.record happening).updateControl (steer session.control happening) woken
  obtain ⟨told, requested⟩ := steered.events_publishAll (notice session.control happening)
  obtain ⟨agenda, delivery, same, grows, changes, -⟩ :=
    steered.publishAll_frame (notice session.control happening)
  have aborts : ∀ event ∈ notice session.control happening,
      event.isAbort = true ∧ ¬event.isFromBackend = true := by
    intro event member
    unfold notice at member
    split at member
    · split at member
      · rw [List.mem_singleton.mp member]
        exact ⟨rfl, Bool.false_ne_true⟩
      · cases member
    · cases member
  rw [List.filter_eq_nil_iff.mpr fun event member => (aborts event member).2] at told
  rw [List.filter_eq_self.mpr fun event member => (aborts event member).1] at requested
  have wakes (task : SceneTask) (member : task ∈ woken) : task ∈ agenda.ready :=
    grows.queue.subset (Agenda.mem_wakeAll.mpr (.inl member))
  show Evolves [happening] [] [] session ((notice session.control happening).foldl publish steered)
  rw [same] at told requested ⊢
  refine { Evolves.refl session with
    journal := by simp [steered, record, updateControl, wakeAll, Record.sequence, brief]
    control := rfl
    events := told
    notices := by
      rw [notices, notices, List.append_nil]
      exact requested
    delivery := changes
    agenda := by
      have instantaneous : Happening.elapsed [happening] = 0 := by simp [Happening.elapsed, brief]
      rw [instantaneous]
      exact (session.agenda.grows_wakeAll woken).trans grows
    alerts := { calls := ?_, backend := ?_ } }
  · rintro id call found - (changed | changed | ⟨unended, -, watches⟩ | ⟨unset, set, watches⟩)
    · exact absurd rfl changed
    · exact absurd rfl changed
    · refine wakes _ (watchEnding _ ?_)
      simpa [endingWatchers, unended] using mem_callTasks session _ found watches
    · rcases watchResult with same | watched
      · have still : session.result?.isSome = true := same ▸ set
        rw [unset] at still
        exact absurd still Bool.false_ne_true
      · exact wakes _ (watched _ (mem_callTasks session _ found watches))
  · intro unset set
    rcases watchStop with same | watched
    · have still : session.control.stopRequested = true := same ▸ set
      rw [unset] at still
      exact absurd still Bool.false_ne_true
    · refine wakes _ (watched _ ?_)
      simp [stopWatchers, unset]

theorem requestStop_evolves (session : Session V) :
    Evolves [.stopRequested] [] [] session session.requestStop :=
  session.record_updateControl_evolves .stopRequested rfl _
    (fun _ member => List.mem_append_right _ member) (.inr fun _ member => member) (.inl rfl)

theorem abort_evolves (session : Session V) (cause : Cause) :
    Evolves [.aborted cause] [] [] session (session.abort cause) := by
  have killed := session.record_updateControl_evolves (.aborted cause) rfl session.stopWatchers
    (fun _ member => List.mem_append_right _ member) (.inr fun _ member => member) (.inl rfl)
  unfold abort
  unfold notice at killed
  dsimp only at killed ⊢
  split
  case isTrue accepted => rwa [if_pos accepted] at killed
  case isFalse refused => rwa [if_neg refused] at killed

theorem conclude_evolves (session : Session V) (deadline : Option (TimeoutKind × Span)) :
    Evolves [.concluded deadline] [] [] session (session.conclude deadline) :=
  session.record_updateControl_evolves (.concluded deadline) rfl _ (fun _ member => member)
    (.inl rfl) (.inl rfl)

/-! ## What reaches the callers -/

theorem modifyCall_calls (session : Session V) (target : Nat) (change : Call V → Call V)
    (id : Nat) :
    (session.modifyCall target change).calls[id]? =
      session.calls[id]?.map fun call => if target = id then change call else call := by
  simp only [modifyCall, List.getElem?_modify]
  cases session.calls[id]? with
  | none => rfl
  | some call => by_cases same : target = id <;> simp [same]

/-- A call that passes a test is changed and woken; any other is left alone. -/
theorem deliver_evolves (session : Session V) (target : Nat) (test : Call V → Bool)
    (update : Call V → Call V) (change : CallChange V)
    (taken : ∀ id call, Call.apply id call change =
      if target = id ∧ test call then update call else call) :
    Evolves [] [change] [] session
      (match session.calls[target]? with
        | none => session
        | some call =>
            if test call then (session.modifyCall target update).wakeCall target
            else session) := by
  have untouched (deaf : ∀ call, session.calls[target]? = some call → test call = false) :
      Evolves [] [change] [] session session := by
    have unchanged (id : Nat) (call : Call V) (found : session.calls[id]? = some call) :
        Call.apply id call change = call := by
      rw [taken]
      refine if_neg fun hit => ?_
      rw [deaf call (hit.1 ▸ found)] at hit
      exact absurd hit.2 Bool.false_ne_true
    refine { Evolves.refl session with calls := fun id => ?_, alerts := ?_ }
    · cases found : session.calls[id]? with
      | none => rfl
      | some call => exact congrArg some (unchanged id call found).symm
    · exact alerts_of_steady rfl fun id call found _ =>
        have same := unchanged id call found
        ⟨congrArg Call.reply same, congrArg Call.signal same⟩
  split
  case h_1 missing => exact untouched fun call found => by simp [missing] at found
  case h_2 call found =>
    split
    case isTrue passes =>
      have woken := (session.modifyCall target update).wakeAll_evolves [.call target]
      refine { woken with calls := fun id => ?_, alerts := { woken.alerts with calls := ?_ } }
      · rw [wakeCall, woken.calls, modifyCall_calls, Option.map_map]
        cases same : session.calls[id]? with
        | none => rfl
        | some other =>
            refine congrArg some ?_
            show (if target = id then update other else other) = Call.apply id other change
            rw [taken]
            by_cases hit : target = id
            · subst hit
              obtain rfl : call = other := Option.some.inj (found.symm.trans same)
              simp [passes]
            · simp [hit]
      · intro id other _ _ stirred
        by_cases hit : target = id
        · subst hit
          exact Agenda.mem_wakeAll.mpr (.inl (List.mem_singleton.mpr rfl))
        · have unchanged : Call.apply id other change = other := by
            rw [taken]
            exact if_neg fun both => hit both.1
          exact absurd stirred (not_stirred rfl (congrArg Call.reply unchanged)
            (congrArg Call.signal unchanged))
    case isFalse fails =>
      refine untouched fun other same => ?_
      obtain rfl : call = other := Option.some.inj (found.symm.trans same)
      simpa using fails

theorem respond_evolves (session : Session V) (target : Nat) (slot : ReplySlot V) :
    Evolves [] [.reply target slot] [] session (session.respond target slot) :=
  session.deliver_evolves target Call.awaitsReply (fun call => { call with reply := slot })
    (.reply target slot) fun _ _ => rfl

theorem notify_evolves (session : Session V) (target : Nat) (slot : SignalSlot) :
    Evolves [] [.signal target slot] [] session (notify slot session target) :=
  session.deliver_evolves target Call.listens (fun call => { call with signal := slot })
    (.signal target slot) fun _ _ => rfl

theorem notifyAll_evolves (slot : SignalSlot) (targets : List Nat) (session : Session V) :
    Evolves [] (targets.map fun target => .signal target slot) [] session
      (targets.foldl (notify slot) session) := by
  induction targets generalizing session with
  | nil => exact Evolves.refl session
  | cons first rest inductionHypothesis =>
      exact (session.notify_evolves first slot).trans (inductionHypothesis _)

end Session

end BoundedScene
