import BoundedScene.Proofs.SceneEvents

/-!
Contract: an ended scene has one abort request exactly when its result is an abort.

Owns:
- `SameEnd`, what the result and the events of the end depend on, once no abort can be
  recorded any more;
- `Mutes`, the replacement of a cleanup whose abort would come too late;
- `TellsAborts`, how the abort requests of an ended scene fit its result.

Main statement: `abort_requests`.

Does not own: the order of the other events.
-/

namespace BoundedScene

open BoundedScene.Supervision (Control)

/-- A cleanup that looks at the phase where it would abort the scene. -/
def Cleanup.muted (cleanup : Cleanup) : Cleanup :=
  match cleanup.act with
  | .abort _ => { cleanup with act := .observe }
  | _ => cleanup

namespace StoredProp

variable {V : Type}

/-- The same prop with a cleanup that does not abort the scene. -/
def muted (prop : StoredProp V) : StoredProp V :=
  { prop with cleanup := prop.cleanup.map Cleanup.muted }

/-- Whether the cleanup of the prop aborts the scene. -/
def aborts (prop : StoredProp V) : Bool :=
  prop.cleanup.any fun cleanup =>
    match cleanup.act with
    | .abort _ => true
    | _ => false

end StoredProp

namespace Session

variable {V : Type} {session other before after : Session V} {log : List (Happening V)}
  {changes : List (CallChange V)}

/-- The end stores the result that the teardown leaves standing. -/
theorem outcome_finish (session : Session V) (cause : Option SceneError) :
    (session.finish cause).control.outcome = some (session.terminalResult cause) := by
  rw [(session.finish_evolves cause).control, List.foldl_append]
  rfl

/-! ## Where no abort can be recorded any more -/

/-- The moves with which the backend goes on or is destroyed.  All others are made by
callers, by subscribers or by the clock. -/
def Move.isOfBackend : Move V → Bool
  | .act .dropTasks => true
  | .resume .backend => true
  | .serve _ => true
  | _ => false

/-- Two scenes agree on the terminal result and the events so far, and on all that these
will depend on at the end. -/
structure SameEnd (session other : Session V) : Prop where
  outcome : other.control.outcome = session.control.outcome
  killed : other.control.killed = session.control.killed
  props : other.props = session.props
  visiting : other.visiting = session.visiting
  limits : other.absolute = session.absolute ∧ other.inactivity = session.inactivity
  events : other.sceneEvents = session.sceneEvents

namespace SameEnd

theorem refl (session : Session V) : SameEnd session session :=
  ⟨rfl, rfl, rfl, rfl, ⟨rfl, rfl⟩, rfl⟩

theorem trans {middle : Session V} (first : SameEnd session middle)
    (second : SameEnd middle other) : SameEnd session other where
  outcome := second.outcome.trans first.outcome
  killed := second.killed.trans first.killed
  props := second.props.trans first.props
  visiting := second.visiting.trans first.visiting
  limits := ⟨second.limits.1.trans first.limits.1, second.limits.2.trans first.limits.2⟩
  events := second.events.trans first.events

theorem symm (same : SameEnd session other) : SameEnd other session where
  outcome := same.outcome.symm
  killed := same.killed.symm
  props := same.props.symm
  visiting := same.visiting.symm
  limits := ⟨same.limits.1.symm, same.limits.2.symm⟩
  events := same.events.symm

/-- A growth that concludes nothing, up to the calls and the mailbox. -/
theorem of_growth {agenda : Agenda SceneTask} {handles : List Bool} {calls : List (Call V)}
    {mailbox : Mailbox (Envelope V)} (refused : before.control.acceptsKill = false)
    (steady : ∀ happening ∈ log, happening.concludes = false)
    (growth : Evolves log changes [] { before with agenda, handles, calls, mailbox } after) :
    SameEnd before after ∧ after.backend = before.backend where
  left :=
    { outcome := by rw [growth.control, foldl_steer_outcome _ steady]
      killed := by rw [growth.control, killed_of_refused refused]
      props := growth.props
      visiting := growth.visiting
      limits := ⟨growth.absolute, growth.inactivity⟩
      events := by
        rw [sceneEvents_of_growth growth (.inl rfl), notices_of_refused refused, List.append_nil,
          List.append_nil]
        rfl }
  right := growth.backend

/-- Scenes that agree come to the same end. -/
theorem finish (same : SameEnd session other) (refused : session.control.acceptsKill = false)
    (otherRefused : other.control.acceptsKill = false) :
    SameEnd (session.finish none) (other.finish none) := by
  have failures : other.teardownFailures = session.teardownFailures := by
    unfold teardownFailures
    rw [same.visiting, same.props]
  have growth := session.finish_evolves none
  have otherGrowth := other.finish_evolves none
  constructor
  case outcome =>
    rw [outcome_finish, outcome_finish]
    unfold terminalResult Control.resolve
    rw [killed_of_refused refused, killed_of_refused otherRefused, same.killed, failures]
  case killed =>
    rw [growth.control, otherGrowth.control, killed_of_refused refused,
      killed_of_refused otherRefused]
    exact same.killed
  case props => rw [growth.props, otherGrowth.props]
  case visiting => exact (otherGrowth.visiting.trans same.visiting).trans growth.visiting.symm
  case limits =>
    exact ⟨(otherGrowth.absolute.trans same.limits.1).trans growth.absolute.symm,
      (otherGrowth.inactivity.trans same.limits.2).trans growth.inactivity.symm⟩
  case events =>
    rw [sceneEvents_finish, sceneEvents_finish, notices_of_refused refused,
      notices_of_refused otherRefused, failures, same.events, same.props]

theorem openUp (same : SameEnd session other) : SameEnd session.openUp other.openUp := by
  have growth := session.openUp_evolves
  have otherGrowth := other.openUp_evolves
  constructor
  case outcome => rw [growth.control, otherGrowth.control]; exact same.outcome
  case killed => rw [growth.control, otherGrowth.control]; exact same.killed
  case props => exact (otherGrowth.props.trans same.props).trans growth.props.symm
  case visiting => exact (otherGrowth.visiting.trans same.visiting).trans growth.visiting.symm
  case limits =>
    exact ⟨(otherGrowth.absolute.trans same.limits.1).trans growth.absolute.symm,
      (otherGrowth.inactivity.trans same.limits.2).trans growth.inactivity.symm⟩
  case events =>
    have opening : other.startedEvent = session.startedEvent := by
      unfold startedEvent
      rw [same.limits.1, same.limits.2]
    rw [sceneEvents_of_growth growth (.inr rfl), sceneEvents_of_growth otherGrowth (.inr rfl),
      opening]
    exact congrArg (· ++ _ ++ _) same.events

/-- The moves of callers, subscribers and the clock leave alone what the end depends on. -/
theorem of_idle (refused : session.control.acceptsKill = false) {move : Move V}
    (idle : move.isOfBackend = false) :
    SameEnd session (session.move move) ∧ (session.move move).backend = session.backend := by
  cases move with
  | act deed =>
      cases deed with
      | call request => exact of_growth refused (by simp) (session.makeCall_evolves request)
      | cancel id =>
          show SameEnd session (session.cancel id) ∧ (session.cancel id).backend = _
          cases found : session.calls[id]? with
          | none =>
              unfold cancel
              rw [found]
              exact ⟨refl session, rfl⟩
          | some call =>
              cases unfinished : call.isUnfinished with
              | true =>
                  exact of_growth refused (by simp [Happening.concludes])
                    (session.cancel_evolves found unfinished).1
              | false =>
                  unfold cancel
                  rw [found]
                  simpa [unfinished] using refl session
      | clone => exact ⟨⟨rfl, rfl, rfl, rfl, ⟨rfl, rfl⟩, rfl⟩, rfl⟩
      | drop handle => exact of_growth refused (by simp) (noteHandles_evolves _)
      | release lane count => exact of_growth refused (by simp) (session.release_evolves lane count)
      | dropTasks => cases idle
  | resume task =>
      cases task with
      | backend => cases idle
      | call id =>
          show SameEnd session (resumeCall id _) ∧ (resumeCall id _).backend = _
          cases found : session.calls[id]? with
          | none =>
              unfold resumeCall dequeue
              rw [found]
              exact ⟨⟨rfl, rfl, rfl, rfl, ⟨rfl, rfl⟩, rfl⟩, rfl⟩
          | some call =>
              obtain ⟨log, _, _, turn, growth, -⟩ :=
                (session.dequeue (.call id)).resumeCall_turnsBy id call found
              exact of_growth refused
                (fun happening member => Happening.concludes_of_isCalm
                  (turn.isByCall happening member).calm) growth
      | delivery task => exact of_growth refused (by simp) (resumeDelivery_evolves _ task)
  | serve => cases idle
  | reach instant => exact of_growth refused (by simp) (wakeAll_evolves _ _)

theorem serve_of_stopped (commands : Nat) (stopped : session.control.stopRequested = true) :
    session.serve commands = session.finish none := by
  rw [serve_eq, if_pos stopped]

theorem control_openUp (session : Session V) : session.openUp.control = session.control :=
  session.openUp_evolves.control

/-- The turn of a backend that is asked to stop. -/
inductive StoppedTurn (session : Session V) : Session V → Prop where
  | opens (fresh : session.backend = .fresh) : StoppedTurn session (session.openUp.finish none)
  | ends {absolute inactivity : Option Nat}
      (serving : session.backend = .serving absolute inactivity) :
      StoppedTurn session (session.finish none)
  | rests (gone : session.backendRuns = false) : StoppedTurn session session

theorem stoppedTurn (stopped : session.backendRuns = true → session.control.stopRequested = true) :
    StoppedTurn session session.resumeBackend := by
  unfold Session.resumeBackend
  cases state : session.backend with
  | fresh =>
      have asked : session.openUp.control.stopRequested = true := by
        rw [control_openUp]
        exact stopped (by simp [backendRuns, state])
      have ended := serve_of_stopped session.openUp.mailbox.queued.length asked
      exact ended ▸ .opens state
  | serving absolute inactivity =>
      dsimp only
      rw [serve_of_stopped _ (stopped (by simp [backendRuns, state]))]
      exact .ends state
  | _ => exact .rests (by simp [backendRuns, state])

theorem backend_finish (session other : Session V) :
    (other.finish none).backend = (session.finish none).backend :=
  (other.finish_evolves none).backend.trans (session.finish_evolves none).backend.symm

/-- The turns of backends that are asked to stop. -/
theorem resumeBackend (same : SameEnd session other) (backend : other.backend = session.backend)
    (stopped : session.backendRuns = true →
      session.control.stopRequested = true ∧ other.control.stopRequested = true)
    (refused : session.control.acceptsKill = false)
    (otherRefused : other.control.acceptsKill = false) :
    SameEnd session.resumeBackend other.resumeBackend
      ∧ other.resumeBackend.backend = session.resumeBackend.backend := by
  have runs : other.backendRuns = session.backendRuns := by
    unfold backendRuns
    rw [backend]
  have turn := stoppedTurn fun running => (stopped running).1
  have otherTurn := stoppedTurn fun running => (stopped (runs ▸ running)).2
  generalize session.resumeBackend = next, other.resumeBackend = otherNext at turn otherTurn ⊢
  cases turn with
  | opens fresh =>
      cases otherTurn with
      | opens =>
          refine ⟨same.openUp.finish ?_ ?_, backend_finish _ _⟩
          · rw [control_openUp]
            exact refused
          · rw [control_openUp]
            exact otherRefused
      | ends serving => simp [backend, fresh] at serving
      | rests gone => simp [backendRuns, backend, fresh] at gone
  | ends serving =>
      cases otherTurn with
      | opens fresh => simp [backend, serving] at fresh
      | ends => exact ⟨same.finish refused otherRefused, backend_finish _ _⟩
      | rests gone => simp [backendRuns, backend, serving] at gone
  | rests gone =>
      cases otherTurn with
      | opens fresh => simp [backendRuns, ← backend, fresh] at gone
      | ends serving => simp [backendRuns, ← backend, serving] at gone
      | rests => exact ⟨same, backend⟩

theorem wakeAll (same : SameEnd session other) (tasks : List SceneTask) :
    SameEnd (session.wakeAll tasks) (other.wakeAll tasks) :=
  ⟨same.outcome, same.killed, same.props, same.visiting, same.limits, same.events⟩

/-- Scenes that agree still agree after a move of their backends. -/
theorem move (same : SameEnd session other) (backend : other.backend = session.backend)
    (steered : session.Steered) (otherSteered : other.Steered)
    (refused : session.control.acceptsKill = false)
    (otherRefused : other.control.acceptsKill = false) {move : Move V}
    (own : move.isOfBackend = true) :
    SameEnd (session.move move) (other.move move)
      ∧ (other.move move).backend = (session.move move).backend := by
  have runs : other.backendRuns = session.backendRuns := by
    unfold backendRuns
    rw [backend]
  have stopped (running : session.backendRuns = true) :
      session.control.stopRequested = true ∧ other.control.stopRequested = true :=
    ⟨steered.doomed running refused, otherSteered.doomed (runs.trans running) otherRefused⟩
  cases move with
  | act deed =>
      cases deed with
      | dropTasks =>
          refine ⟨⟨same.outcome, same.killed, rfl, same.visiting, same.limits, same.events⟩, ?_⟩
          show (if _ then _ else _) = if _ then _ else _
          rw [runs, backend]
      | _ => cases own
  | resume task =>
      cases task with
      | backend =>
          have dequeued : SameEnd (session.dequeue .backend) (other.dequeue .backend) :=
            ⟨same.outcome, same.killed, same.props, same.visiting, same.limits, same.events⟩
          exact dequeued.resumeBackend backend stopped refused otherRefused
      | _ => cases own
  | serve commands =>
      unfold Session.move
      dsimp only
      rw [backend]
      split
      case h_1 absolute inactivity state =>
        obtain ⟨asked, otherAsked⟩ := stopped (by simp [backendRuns, state])
        rw [serve_of_stopped _ asked, serve_of_stopped _ otherAsked]
        exact ⟨(same.finish refused otherRefused).wakeAll _, backend_finish session other⟩
      case h_2 => exact ⟨same, backend⟩
  | reach => cases own

/-- Leaving out the moves of callers, subscribers and the clock makes no difference. -/
theorem moves (schedule : List (Move V)) (same : SameEnd session other)
    (backend : other.backend = session.backend) (passed : Passed session)
    (otherPassed : Passed other) (refused : session.control.acceptsKill = false)
    (otherRefused : other.control.acceptsKill = false) :
    SameEnd (session.moves schedule) (other.moves (schedule.filter Move.isOfBackend)) := by
  induction schedule generalizing session other with
  | nil => exact same
  | cons first rest inductionHypothesis =>
      have refuses {scene : Session V} (refused : scene.control.acceptsKill = false) :
          (scene.move first).control.acceptsKill = false := by
        have run := scene.move_advances first
        generalize scene.move first = reached at run
        induction run with
        | refl => exact refused
        | tail _ last still => exact last.refuses still
      have moved := passed.advances (session.move_advances first)
      cases own : first.isOfBackend with
      | true =>
          rw [List.filter_cons_of_pos own]
          obtain ⟨next, nextBackend⟩ := same.move backend passed.steered otherPassed.steered refused
            otherRefused own
          exact inductionHypothesis next nextBackend moved
            (otherPassed.advances (other.move_advances first)) (refuses refused)
            (refuses otherRefused)
      | false =>
          rw [List.filter_cons_of_neg (by simp [own])]
          obtain ⟨still, stillBackend⟩ := of_idle refused own
          exact inductionHypothesis (still.symm.trans same) (backend.trans stillBackend.symm) moved
            otherPassed (refuses refused) otherRefused

end SameEnd

/-! ## Cleanups that abort too late -/

/-- `other` is `session`, but for the cleanup of one prop, which looks at the phase where
that of `session` aborts.  Its abort would come too late: before the teardown no abort could
be recorded any more, or the cleanup of a prop that is visited earlier aborts as well. -/
structure Mutes (early : List (StoredProp V)) (prop : StoredProp V) (late : List (StoredProp V))
    (session other : Session V) : Prop where
  visits : session.visiting.arrange session.props.props = early ++ prop :: late
  mutes : other.visiting.arrange other.props.props = early ++ prop.muted :: late
  same : other = { session with props := other.props, visiting := other.visiting }
  tooLate : session.control.acceptsKill = false ∨ early.any StoredProp.aborts = true

/-- Every cleanup of a dispose that aborts comes in time. -/
theorem Steered.accepts (steered : session.Steered) (serving : session.isServing)
    (unstopped : session.control.stopRequested = false) : session.control.acceptsKill = true := by
  by_contra refused
  have stopped := steered.doomed serving.runs (by simpa using refused)
  rw [unstopped] at stopped
  cases stopped

theorem cleanupFailure?_muted (prop : StoredProp V) :
    cleanupFailure? prop.muted = cleanupFailure? prop := by
  unfold cleanupFailure? StoredProp.muted Cleanup.muted
  cases prop.cleanup with
  | none => rfl
  | some cleanup => cases act : cleanup.act <;> simp [Cleanup.failure?, act]

/-- The cleanup of a prop that aborts puts the abort into the journal. -/
theorem aborted_of_aborts {prop : StoredProp V} (aborts : prop.aborts = true) (phase : Phase) :
    ∃ cause, .aborted cause ∈ cleanupLog phase prop := by
  unfold StoredProp.aborts at aborts
  unfold cleanupLog
  cases has : prop.cleanup with
  | none => simp [has] at aborts
  | some cleanup => cases act : cleanup.act <;> simp_all

namespace Mutes

variable {early late : List (StoredProp V)} {prop : StoredProp V}

/-- When the cleanup in question runs, no abort can be recorded any more. -/
theorem refused (mutes : Mutes early prop late session other) (phase : Phase) :
    ((early.flatMap (cleanupLog phase)).foldl steer session.control).acceptsKill = false := by
  rcases mutes.tooLate with refused | aborts
  · exact acceptsKill_of_refused refused _
  · obtain ⟨first, member, first_aborts⟩ := List.any_eq_true.mp aborts
    obtain ⟨cause, logged⟩ := aborted_of_aborts first_aborts phase
    exact refused_of_aborted (List.mem_flatMap.mpr ⟨first, member, logged⟩) _

/-- What follows after the cleanups of the props visited earlier makes no difference. -/
theorem irrelevant (mutes : Mutes early prop late session other) (phase : Phase)
    (rest : List (StoredProp V)) :
    (((early ++ rest).flatMap (cleanupLog phase)).foldl steer session.control).killed
        = ((early.flatMap (cleanupLog phase)).foldl steer session.control).killed
      ∧ notices session.control ((early ++ rest).flatMap (cleanupLog phase))
        = notices session.control (early.flatMap (cleanupLog phase)) := by
  have refused := mutes.refused phase
  rw [List.flatMap_append, List.foldl_append, notices_append, killed_of_refused refused,
    notices_of_refused refused, List.append_nil]
  exact ⟨rfl, rfl⟩

/-- The scene ends with the same result and the same events. -/
theorem finish (mutes : Mutes early prop late session other) (cause : Option SceneError) :
    (other.finish cause).control.outcome = (session.finish cause).control.outcome
      ∧ (other.finish cause).sceneEvents = (session.finish cause).sceneEvents := by
  have control : other.control = session.control := by rw [mutes.same]
  have phase : other.phase = session.phase := by rw [mutes.same]
  have events : other.sceneEvents = session.sceneEvents := by rw [mutes.same]; rfl
  have failures : other.teardownFailures = session.teardownFailures := by
    unfold teardownFailures
    rw [mutes.visits, mutes.mutes]
    simp only [List.filterMap_append, List.filterMap_cons, cleanupFailure?_muted]
  have size : other.props.size = session.props.size := by
    have count := (session.visiting.perm session.props.props).length_eq
    have otherCount := (other.visiting.perm other.props.props).length_eq
    rw [mutes.visits] at count
    rw [mutes.mutes] at otherCount
    exact otherCount.symm.trans ((by simp : _ = _).trans count)
  obtain ⟨killed, requests⟩ := mutes.irrelevant (session.phase.later .ending) (prop :: late)
  obtain ⟨otherKilled, otherRequests⟩ :=
    mutes.irrelevant (session.phase.later .ending) (prop.muted :: late)
  have sameKilled : (other.teardownLog.foldl steer other.control).killed
      = (session.teardownLog.foldl steer session.control).killed := by
    unfold teardownLog
    rw [control, phase, mutes.visits, mutes.mutes, killed, otherKilled]
  have sameRequests : notices other.control other.teardownLog
      = notices session.control session.teardownLog := by
    unfold teardownLog
    rw [control, phase, mutes.visits, mutes.mutes, requests, otherRequests]
  constructor
  · rw [outcome_finish, outcome_finish]
    unfold terminalResult Control.resolve
    rw [sameKilled, failures]
  · rw [sceneEvents_finish, sceneEvents_finish, events, size, sameRequests, failures]

end Mutes

/-! ## The main statement -/

/-- The abort requests of an ended scene fit its terminal result, and they come before the
last event, which is the only one of its kind. -/
structure TellsAborts (session : Session V) : Prop where
  fit : ∃ result, session.control.outcome = some result ∧ session.abortEvents = requestsOf result
  order : ∃ earlier last, session.sceneEvents = earlier ++ [last] ∧ last.kind = .sceneEnded
    ∧ earlier.filter Event.isAbort = session.abortEvents
    ∧ ∀ event ∈ earlier, event.kind ≠ .sceneEnded

theorem Reachable.tellsAborts (reachable : Reachable session)
    (returned : session.backend = .returned) : session.TellsAborts where
  fit := reachable.passed.requests returned
  order := by
    obtain ⟨earlier, last, scene, kind⟩ := reachable.passed.endsLast returned
    have foreign : last.isAbort = false := by simp [Event.isAbort, kind]
    have own : last.isFromBackend = true := by simp [Event.isFromBackend, kind]
    refine ⟨earlier, last, scene, kind, ?_, fun event member ended => ?_⟩
    · have requests : session.abortEvents = session.sceneEvents.filter Event.isAbort :=
        Delivery.abortEvents_eq _
      rw [requests, scene, List.filter_append, List.filter_cons_of_neg (by simp [foreign]),
        List.filter_nil, List.append_nil]
    · have single := (reachable.tellsAll returned).last
      have backend : session.backendEvents = session.sceneEvents.filter Event.isFromBackend :=
        Delivery.backendEvents_eq _
      have eventOwn : event.isFromBackend = true := by simp [Event.isFromBackend, ended]
      have twice : event ∈ (earlier.filter Event.isFromBackend).filter
          fun event => event.kind == .sceneEnded :=
        List.mem_filter.mpr ⟨List.mem_filter.mpr ⟨member, eventOwn⟩, by simp [ended]⟩
      rw [backend, scene, List.filter_append, List.filter_append,
        List.filter_cons_of_pos own, List.filter_nil, List.filter_cons_of_pos (by simp [kind]),
        List.filter_nil] at single
      have length := congrArg List.length single
      have present := List.length_pos_of_mem twice
      simp only [List.length_append, List.length_cons, List.length_nil] at length
      omega

/-- There is never more than one abort request.  An ended scene has one exactly when its
terminal result is an abort; it comes before the last event and gives the message of the
result.  Every other abort changes nothing: once no abort can be recorded, leaving out
whatever callers do, or doing other things instead, leads to the same result and the same
events; a cleanup that runs for a dispose never aborts too late; and a cleanup that does in
the teardown could as well have looked at the phase. -/
theorem abort_requests (reachable : Reachable session) :
    session.abortEvents.length ≤ 1
      ∧ (session.backend = .returned → session.TellsAborts)
      ∧ (session.control.acceptsKill = false → ∀ first second : List (Move V),
          first.filter Move.isOfBackend = second.filter Move.isOfBackend →
            SameEnd (session.moves first) (session.moves second))
      ∧ (session.isServing → session.control.stopRequested = false →
          session.control.acceptsKill = true)
      ∧ ∀ (ending other : Session V) (early : List (StoredProp V)) (prop : StoredProp V)
          (late : List (StoredProp V)) (cause : Option SceneError),
          Mutes early prop late ending other →
            (other.finish cause).control.outcome = (ending.finish cause).control.outcome
              ∧ (other.finish cause).sceneEvents = (ending.finish cause).sceneEvents := by
  have passed := reachable.passed
  refine ⟨?_, reachable.tellsAborts, fun refused first second alike => ?_,
    passed.steered.accepts, fun _ _ _ _ _ cause mutes => mutes.finish cause⟩
  · rw [passed.abortEvents_eq, recordedRequests, List.length_map]
    cases session.control.killed <;> simp
  · have left := SameEnd.moves first (.refl session) rfl passed passed refused refused
    have right := SameEnd.moves second (.refl session) rfl passed passed refused refused
    exact left.trans (alike ▸ right.symm)

/-- Two props have cleanups that abort, a stop tears both down, and one more abort comes
after the end. -/
def manyAborts : List (Move Nat) :=
  [.act (.call (.store "n" 1 (some { act := .abort (.foreign "first") }))),
    .resume (.call 0), .resume .backend,
    .act (.call (.store "m" 2 (some { act := .abort (.foreign "second") }))),
    .resume (.call 1), .resume .backend, .act (.call .stop), .resume (.call 2), .resume .backend]

def lateAbort : List (Move Nat) :=
  [.act (.call (.abort (.foreign "third"))), .resume (.call 3)]

theorem abort_requests_manyAborts :
    (plain.moves manyAborts).control.outcome = some (.error (.aborted (.foreign "first")))
      ∧ (plain.moves manyAborts).abortEvents
        = [{ kind := .abortRequested, reason := some "scene aborted: first" }]
      ∧ (plain.moves manyAborts).TellsAborts
      ∧ SameEnd ((plain.moves manyAborts).moves lateAbort) ((plain.moves manyAborts).moves []) := by
  have returned : (plain.moves manyAborts).backend = .returned := by decide +kernel
  have refused : (plain.moves manyAborts).control.acceptsKill = false := by decide +kernel
  obtain ⟨-, tells, others, -⟩ := abort_requests (reachable_plain.moves manyAborts)
  exact ⟨rfl, by decide +kernel, tells returned, others refused lateAbort [] rfl⟩

end Session

end BoundedScene
