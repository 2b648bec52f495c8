import BoundedScene.Proofs.Audience
import BoundedScene.Proofs.EventStream
import Mathlib.Data.List.TakeWhile

/-!
Contract: the abort requests among the events of a scene.

Owns:
- what stays as it is once no abort can be recorded any more;
- `Session.sceneEvents`, the events of the backend and the abort requests in one order;
- the abort requests on the bus, and those that a terminal result calls for;
- the last event of a scene.

Does not own: which abort is recorded, which `verdict` says.
-/

namespace BoundedScene

open BoundedScene.Supervision (Control)

namespace Session

variable {V : Type} {session before after : Session V} {control : Control SceneError}
  {log : List (Happening V)} {changes : List (CallChange V)} {events : List Event}

/-! ## Aborts that are not recorded -/

/-- An abort that is not recorded leaves open or closed whatever was. -/
theorem acceptsKill_of_refused (refused : control.acceptsKill = false) (log : List (Happening V)) :
    (log.foldl steer control).acceptsKill = false := by
  induction log generalizing control with
  | nil => exact refused
  | cons first rest inductionHypothesis =>
      refine inductionHypothesis ?_
      cases first with
      | aborted cause =>
          have unmoved : (control.kill (.aborted cause)).killed = control.killed := by
            simp [Control.kill, refused]
          calc (control.kill (.aborted cause)).acceptsKill
              = (control.killed.isNone && !control.concluded && !control.isFinished) := by
                rw [Control.acceptsKill, unmoved]
                rfl
            _ = false := refused
      | _ =>
          simp_all [steer, Control.acceptsKill, Control.isFinished, Control.requestStop,
            Control.conclude]

theorem killed_of_refused (refused : control.acceptsKill = false) (log : List (Happening V)) :
    (log.foldl steer control).killed = control.killed := by
  cases killed : control.killed with
  | some error => exact killed_of_killed killed log
  | none =>
      have closed : control.concluded = true ∨ control.outcome.isSome = true := by
        simpa [Control.acceptsKill, Control.isFinished, killed, or_iff_not_imp_left] using refused
      exact killed_of_concluded killed closed log

theorem notices_of_refused (refused : control.acceptsKill = false) (log : List (Happening V)) :
    notices control log = [] := by
  induction log generalizing control with
  | nil => rfl
  | cons first rest inductionHypothesis =>
      have silent : notice control first = [] := by
        cases first <;> simp [notice, refused]
      exact List.append_eq_nil_iff.mpr
        ⟨silent, inductionHypothesis (acceptsKill_of_refused refused [first])⟩

/-- Once an abort was executed, no other is recorded. -/
theorem refused_of_aborted {cause : Cause} (member : .aborted cause ∈ log)
    (control : Control SceneError) : (log.foldl steer control).acceptsKill = false := by
  obtain ⟨early, late, rfl⟩ := List.append_of_mem member
  rw [List.foldl_append, List.foldl_cons]
  refine acceptsKill_of_refused ?_ late
  generalize early.foldl steer control = middle
  cases accepted : middle.acceptsKill with
  | false => exact acceptsKill_of_refused accepted [(.aborted cause : Happening V)]
  | true =>
      have recorded : (middle.kill (.aborted cause)).killed = some (.aborted cause) := by
        simp [Control.kill, accepted]
      simp [steer, Control.acceptsKill, recorded]

theorem Advance.refuses (step : Advance before after)
    (refused : before.control.acceptsKill = false) : after.control.acceptsKill = false := by
  cases step.course with
  | calm _ _ control => exact control ▸ acceptsKill_of_refused refused _
  | serves serving _ _ served =>
      obtain ⟨_, -, growth⟩ := serveOne_evolves serving _ _
      rw [served, growth.control]
      exact acceptsKill_of_refused refused _
  | ends _ cause =>
      rw [cause.evolves.control]
      exact acceptsKill_of_refused refused _
  | loses lost =>
      rw [lost]
      exact refused

/-- A running scene in which no abort can be recorded has recorded one and is asked to
stop. -/
theorem Steered.doomed (steered : session.Steered) (runs : session.backendRuns = true)
    (refused : session.control.acceptsKill = false) : session.control.stopRequested = true := by
  obtain ⟨unset, unconcluded, -, asked⟩ := steered.running runs
  refine asked (steered.ending_iff.mpr ?_)
  have killed : session.control.killed.isSome = true := by
    simpa [Control.acceptsKill, Control.isFinished, unset, unconcluded,
      Option.isSome_iff_ne_none] using refused
  rw [steered.control_of_runs runs, killed_eq_firstAbort rfl rfl rfl, Option.isSome_map] at killed
  obtain ⟨cause, first⟩ := Option.isSome_iff_exists.mp killed
  obtain ⟨happening, member, aborts⟩ := List.exists_of_findSome?_eq_some first
  refine ⟨happening, (List.takeWhile_sublist _).mem member, ?_⟩
  cases happening <;> simp_all [Happening.abortCause?, Happening.beginsEnding]

/-! ## Abort requests among the events -/

/-- The events of the scene and the abort requests, in the order in which they were
published. -/
def sceneEvents (session : Session V) : List Event :=
  session.delivery.sceneEvents

theorem sceneEvents_grow
    (grown : before.delivery.feed.published <+: after.delivery.feed.published) :
    ∃ more, after.sceneEvents = before.sceneEvents ++ more
      ∧ after.backendEvents = before.backendEvents ++ more.filter Event.isFromBackend
      ∧ after.abortEvents = before.abortEvents ++ more.filter Event.isAbort
      ∧ ∀ event ∈ more, event.isFromBackend = !event.isAbort := by
  obtain ⟨tail, published⟩ := grown
  have scene : after.sceneEvents
      = before.sceneEvents ++ tail.filter fun event => !event.isReport := by
    unfold sceneEvents Delivery.sceneEvents
    rw [← published, List.filter_append]
  refine ⟨_, scene, ?_, ?_, ?_⟩
  · unfold backendEvents
    rw [Delivery.backendEvents_eq, Delivery.backendEvents_eq, ← List.filter_append]
    exact congrArg _ scene
  · unfold abortEvents
    rw [Delivery.abortEvents_eq, Delivery.abortEvents_eq, ← List.filter_append]
    exact congrArg _ scene
  · intro event member
    have unreported := (List.mem_filter.mp member).2
    obtain ⟨kind⟩ := event
    cases kind <;> simp_all [Event.isFromBackend, Event.isAbort, Event.isReport, Event.isOverflow,
      Event.isPanic]

/-- Growth in which only the backend publishes, or only those that abort. -/
theorem sceneEvents_of_growth (growth : Evolves log changes events before after)
    (apart : events = [] ∨ notices before.control log = []) :
    after.sceneEvents = before.sceneEvents ++ events ++ notices before.control log := by
  obtain ⟨more, scene, backend, aborts, sorted⟩ := sceneEvents_grow growth.delivery.buses.1
  have own : more.filter Event.isFromBackend = events :=
    List.append_cancel_left (backend.symm.trans growth.events)
  have requests : more.filter Event.isAbort = notices before.control log :=
    List.append_cancel_left (aborts.symm.trans growth.notices)
  rw [scene, List.append_assoc]
  congr 1
  rcases apart with none | none
  · have all : ∀ event ∈ more, event.isAbort = true := fun event member => by
      have foreign := List.filter_eq_nil_iff.mp (own.trans none) event member
      simpa [sorted event member] using foreign
    rw [none, ← requests, List.filter_eq_self.mpr all, List.nil_append]
  · have all : ∀ event ∈ more, event.isFromBackend = true := fun event member => by
      have foreign := List.filter_eq_nil_iff.mp (requests.trans none) event member
      simpa [sorted event member] using foreign
    rw [none, ← own, List.filter_eq_self.mpr all, List.append_nil]

theorem sceneEvents_publishAll {events : List Event}
    (own : ∀ event ∈ events, event.isReport = false) (session : Session V) :
    (events.foldl publish session).sceneEvents = session.sceneEvents ++ events := by
  obtain ⟨agenda, delivery, grown, -, -, scene⟩ := publishAll_frame events session
  have all : events.filter (fun event => !event.isReport) = events :=
    List.filter_eq_self.mpr fun event member => by simp [own event member]
  rw [all] at scene
  rw [grown]
  exact scene

theorem isReport_of_isFromBackend {event : Event} (own : event.isFromBackend = true) :
    event.isReport = false := by
  obtain ⟨kind⟩ := event
  cases kind <;> first | rfl | cases own

/-- The first events of the end: the teardown is announced, and then come the aborts that
cleanups ask for. -/
theorem sceneEvents_tearDown (session : Session V) :
    let announced := ({ session with phase := session.phase.later .ending }).publish
      ((Event.plain .sceneEnding).withCount session.props.size)
    announced.closeMailbox.tearDown.2.sceneEvents
      = session.sceneEvents ++ [(Event.plain .sceneEnding).withCount session.props.size]
        ++ notices session.control session.teardownLog := by
  intro announced
  have grown : Evolves [] [] [(Event.plain .sceneEnding).withCount session.props.size]
      { session with phase := session.phase.later .ending } announced :=
    publishOwn_evolves _ _ rfl
  have closing := announced.closeMailbox_evolves
  have tearing := announced.closeMailbox.tearDown_evolves.2
  have log : (announced.closeMailbox.visiting.arrange announced.closeMailbox.props.props).flatMap
      (cleanupLog announced.closeMailbox.phase) = session.teardownLog := by
    rw [closing.visiting, closing.props, closing.phase, grown.visiting, grown.props, grown.phase]
    rfl
  have control : announced.closeMailbox.control = session.control :=
    closing.control.trans grown.control
  rw [log] at tearing
  have tornDown := sceneEvents_of_growth tearing (.inl rfl)
  calc announced.closeMailbox.tearDown.2.sceneEvents
      = announced.closeMailbox.sceneEvents ++ []
          ++ notices announced.closeMailbox.control session.teardownLog :=
        tornDown
    _ = announced.sceneEvents ++ notices session.control session.teardownLog := by
        rw [List.append_nil, control, sceneEvents_of_growth closing (.inl rfl)]
        simp only [notices, List.append_nil]
        rfl
    _ = _ := by
        rw [sceneEvents_of_growth grown (.inr rfl)]
        simp only [notices, List.append_nil]
        rfl

/-- The events of the end in order: the aborts that cleanups ask for come between the start
of the teardown and the failures, and nothing comes after the last event. -/
theorem sceneEvents_finish (session : Session V) (cause : Option SceneError) :
    (session.finish cause).sceneEvents
      = session.sceneEvents ++ [(Event.plain .sceneEnding).withCount session.props.size]
        ++ notices session.control session.teardownLog
        ++ session.teardownFailures.map cleanupFailedEvent
        ++ [endedEvent session.props.size (ownResult cause session.teardownFailures)] := by
  have torn := session.sceneEvents_tearDown
  obtain ⟨failures, -⟩ := session.tearDown_published_evolves
  unfold finish
  dsimp only at torn failures ⊢
  rw [failures]
  generalize tearDown _ = torndown at torn ⊢
  have failed (event : Event) (member : event ∈ session.teardownFailures.map cleanupFailedEvent) :
      event.isReport = false := by
    obtain ⟨failure, _, rfl⟩ := List.mem_map.mp member
    exact isReport_of_isFromBackend (isFromBackend_cleanupFailedEvent failure)
  have reported := sceneEvents_publishAll failed torndown.2
  rw [torn] at reported
  generalize List.foldl publish _ _ = cleaned at reported ⊢
  have quiet {log : List (Happening V)} {changes : List (CallChange V)} {before after : Session V}
      (growth : Evolves log changes [] before after)
      (silent : notices before.control log = []) : after.sceneEvents = before.sceneEvents := by
    rw [sceneEvents_of_growth growth (.inl rfl), silent, List.append_nil, List.append_nil]
  have released := quiet cleaned.releaseWaiters_evolves rfl
  rw [quiet (storeResult_evolves _ _) rfl]
  show Session.sceneEvents (dropQueued _) = _
  rw [quiet (dropQueued_evolves _) rfl]
  show Session.sceneEvents (publish _ _) = _
  rw [sceneEvents_of_growth (publishOwn_evolves _ _ (isFromBackend_endedEvent _ _)) (.inr rfl)]
  simp only [notices, List.append_nil]
  exact congrArg (· ++ _) (released.trans reported)

/-! ## What the requests tell -/

/-- The abort requests that a terminal result calls for: one with the message of the result
if that is an abort, and else none. -/
def requestsOf : Except SceneError Unit → List Event
  | .error (.aborted cause) =>
      [{ kind := .abortRequested, reason := some (SceneError.aborted cause).message }]
  | _ => []

/-- The abort requests for the error that was recorded, if one was. -/
def recordedRequests (control : Control SceneError) : List Event :=
  control.killed.toList.map fun error =>
    (Event.plain .abortRequested).withReason error.message

/-- An abort is announced when it is recorded, and at no other time. -/
theorem recordedRequests_foldl (control : Control SceneError) (log : List (Happening V)) :
    recordedRequests (log.foldl steer control)
      = recordedRequests control ++ notices control log := by
  induction log generalizing control with
  | nil => exact (List.append_nil _).symm
  | cons first rest inductionHypothesis =>
      have one : recordedRequests (steer control first)
          = recordedRequests control ++ notice control first := by
        cases first with
        | aborted cause =>
            cases accepted : control.acceptsKill with
            | false => simp [recordedRequests, steer, notice, Control.kill, accepted]
            | true =>
                have open_ : control.killed = none := by
                  simp only [Control.acceptsKill, Bool.and_eq_true, Option.isNone_iff_eq_none]
                    at accepted
                  exact accepted.1.1
                simp [recordedRequests, steer, notice, Control.kill, accepted, open_, abortNotice]
        | _ => exact (List.append_nil _).symm
      rw [List.foldl_cons, inductionHypothesis, one, List.append_assoc]
      rfl

theorem abortEvents_of_growth {earlier : Session V}
    (growth : Evolves log changes events earlier after)
    (told : earlier.abortEvents = recordedRequests earlier.control) :
    after.abortEvents = recordedRequests after.control := by
  rw [growth.notices, growth.control, recordedRequests_foldl, told]

/-- The abort requests on the bus are those for the recorded error. -/
theorem Passed.abortEvents_eq (passed : Passed session) :
    session.abortEvents = recordedRequests session.control := by
  induction passed with
  | @initial session initial =>
      obtain ⟨_, fresh⟩ := initial.delivery
      have silent : session.abortEvents = [] := by
        simp [abortEvents, Delivery.abortEvents, fresh.published]
      rw [silent, initial.control]
      rfl
  | @advance before after _ step told =>
      cases step with
      | drifts growth => exact abortEvents_of_growth growth told
      | makes request => exact abortEvents_of_growth (before.makeCall_evolves request) told
      | turns found =>
          obtain ⟨_, _, _, _, growth, -⟩ := before.resumeCall_turnsBy _ _ found
          exact abortEvents_of_growth growth told
      | cancels found unfinished =>
          exact abortEvents_of_growth (before.cancel_evolves found unfinished).1 told
      | opens => exact abortEvents_of_growth before.openUp_evolves told
      | processes serving =>
          obtain ⟨_, -, growth⟩ := serveOne_evolves serving _ _
          exact abortEvents_of_growth growth told
      | ends _ cause => exact abortEvents_of_growth cause.evolves told
      | loses => exact told

/-- Aborts that come after the backend concluded or ended make no difference to which one
is the first in time. -/
theorem firstAbort?_history (session : Session V) :
    firstAbort? session.history = firstAbort? session.happenings := by
  unfold firstAbort? history
  rw [List.takeWhile_takeWhile]
  congr 2
  funext happening
  cases happening <;> rfl

theorem Passed.killed_eq (passed : Passed session) :
    session.control.killed = (firstAbort? session.happenings).map SceneError.aborted := by
  have steered := congrArg Control.killed passed.steered.control
  rw [killed_eq_firstAbort rfl rfl rfl] at steered
  exact steered

/-- An ended scene has published the abort requests that its result calls for. -/
theorem Passed.requests (passed : Passed session) (returned : session.backend = .returned) :
    ∃ result, session.control.outcome = some result
      ∧ session.abortEvents = requestsOf result := by
  have outcome := passed.outcome_eq returned
  rw [firstAbort?_history] at outcome
  refine ⟨_, outcome, ?_⟩
  rw [passed.abortEvents_eq, recordedRequests, passed.killed_eq]
  cases firstAbort? session.happenings with
  | some cause => rfl
  | none =>
      have unaborted := session.ownVerdict_unaborted
      show [] = requestsOf session.ownVerdict
      cases own : session.ownVerdict with
      | ok => rfl
      | error error =>
          cases error with
          | aborted cause => exact absurd (own ▸ rfl) (unaborted cause)
          | _ => rfl

/-! ## The last event -/

/-- The last event of the scene is the one that tells of its end. -/
def EndsLast (session : Session V) : Prop :=
  ∃ earlier last, session.sceneEvents = earlier ++ [last] ∧ last.kind = .sceneEnded

theorem endsLast_finish (session : Session V) (cause : Option SceneError) :
    (session.finish cause).EndsLast := by
  refine ⟨_, _, session.sceneEvents_finish cause, ?_⟩
  cases ownResult cause session.teardownFailures <;> rfl

/-- Nothing of the scene is published once it has ended. -/
theorem Ended.sceneEvents {result : Except SceneError Unit} (ended : before.Ended result)
    (step : Advance before after) : after.sceneEvents = before.sceneEvents := by
  have unmoved := ended.unmoved step
  obtain ⟨more, scene, backend, aborts, sorted⟩ := sceneEvents_grow step.published
  have noneOwn : more.filter Event.isFromBackend = [] :=
    List.self_eq_append_right.mp (unmoved.events.symm.trans backend)
  have noneAbort : more.filter Event.isAbort = [] :=
    List.self_eq_append_right.mp (unmoved.notices.symm.trans aborts)
  have none : more = [] := List.eq_nil_iff_forall_not_mem.mpr fun event member => by
    have foreign := List.filter_eq_nil_iff.mp noneOwn event member
    rw [sorted event member] at foreign
    exact List.filter_eq_nil_iff.mp noneAbort event member (by simpa using foreign)
  rw [scene, none, List.append_nil]

/-- The step in which a backend comes to return is that of its end. -/
theorem Advance.returns (step : Advance before after) (returned : after.backend = .returned) :
    before.backend = .returned
      ∨ ∃ (ending : Session V) (cause : Option SceneError), after = ending.finish cause := by
  cases step.course with
  | calm _ _ _ _ _ _ _ backend =>
      rcases backend with same | ⟨-, runs⟩
      · exact .inl (same.symm.trans returned)
      · simp [backendRuns, returned] at runs
  | serves serving _ _ served =>
      obtain ⟨_, _, still⟩ := serveOne_isServing serving _ _
      rw [served, still] at returned
      cases returned
  | ends _ cause => cases cause <;> exact .inr ⟨_, _, rfl⟩
  | loses lost => exact .inl (backend_dropTasks_returned.mp (lost ▸ returned))

theorem Passed.endsLast (passed : Passed session) (returned : session.backend = .returned) :
    session.EndsLast := by
  induction passed with
  | initial initial =>
      rw [initial.backend] at returned
      cases returned
  | @advance before after passed step inductionHypothesis =>
      rcases step.returns returned with already | ⟨ending, cause, rfl⟩
      · obtain ⟨earlier, last, scene, kind⟩ := inductionHypothesis already
        obtain ⟨result, set, -⟩ := passed.requests already
        exact ⟨earlier, last, ((passed.ended set).sceneEvents step).trans scene, kind⟩
      · exact ending.endsLast_finish cause

end Session

end BoundedScene
