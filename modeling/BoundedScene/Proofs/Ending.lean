import BoundedScene.Proofs.Moves

/-!
Contract: how the control surface of a scene follows from its journal.

Owns:
- the records of which each step of a scene consists;
- `Steered`, the invariant that ties the control surface to the journal and to the
  state of the backend;
- `Happening.beginsEnding`, the records with which a scene starts to end.

Does not own: which result the scene ends with.
-/

namespace BoundedScene

open BoundedScene.Supervision (Control)

namespace Happening

variable {V : Type}

/-- The scene starts to end, if it has not before. -/
def beginsEnding : Happening V → Bool
  | .stopRequested => true
  | .aborted _ => true
  | .concluded _ => true
  | .ended _ => true
  | _ => false

/-- The backend concludes on its own or is finished. -/
def concludes : Happening V → Bool
  | .concluded _ => true
  | .ended _ => true
  | _ => false

/-- Nothing is processed, cleaned up or concluded. -/
def isCalm : Happening V → Bool
  | .processed _ => false
  | .cleaned _ => false
  | .concluded _ => false
  | .ended _ => false
  | _ => true

/-- What the turn of a call can put into the journal. -/
def isByCall (id : Nat) : Happening V → Prop
  | .started other => other = id
  | .entered envelope => envelope.caller = id
  | .replied other _ => other = id
  | .overtaken other => other = id
  | .answered other _ => other = id
  | .stopRequested => True
  | .aborted _ => True
  | _ => False

/-- What the cleanup of a removed prop can put into the journal. -/
def isByCleanup : Happening V → Prop
  | .cleaned _ => True
  | .aborted _ => True
  | _ => False

theorem isByCall.calm {happening : Happening V} {id : Nat} (byCall : happening.isByCall id) :
    happening.isCalm = true := by
  cases happening <;> first | rfl | cases byCall

theorem concludes_of_isCalm {happening : Happening V} (calm : happening.isCalm = true) :
    happening.concludes = false := by
  cases happening <;> first | rfl | cases calm

theorem processed_of_calm {log : List (Happening V)}
    (calm : ∀ happening ∈ log, happening.isCalm = true) : log.filterMap processed? = [] := by
  refine List.filterMap_eq_nil_iff.mpr fun happening member => ?_
  have still := calm happening member
  cases happening <;> first | rfl | cases still

theorem cleaned_of_calm {log : List (Happening V)}
    (calm : ∀ happening ∈ log, happening.isCalm = true) : log.filterMap cleaned? = [] := by
  refine List.filterMap_eq_nil_iff.mpr fun happening member => ?_
  have still := calm happening member
  cases happening <;> first | rfl | cases still

theorem processed_of_isByCleanup {log : List (Happening V)}
    (byCleanup : ∀ happening ∈ log, happening.isByCleanup) : log.filterMap processed? = [] := by
  refine List.filterMap_eq_nil_iff.mpr fun happening member => ?_
  have kind := byCleanup happening member
  cases happening <;> first | rfl | cases kind

theorem isByCleanup.steady {happening : Happening V} (byCleanup : happening.isByCleanup) :
    happening.concludes = false := by
  cases happening <;> first | rfl | cases byCleanup

end Happening

namespace Session

variable {V : Type}

/-! ## The records of each step -/

theorem ResultTurn.isByCall {control : Control SceneError} {id : Nat} {request : Request V}
    {log : List (Happening V)} {stage : Stage V} (turn : ResultTurn control id request log stage) :
    ∀ happening ∈ log, happening.isByCall id := by
  cases turn <;> simp [Happening.isByCall]

theorem SignalTurn.isByCall {control : Control SceneError} {clock : Clock} {id : Nat}
    {call : Call V} {topic : String} {deadline : Option Nat} {log : List (Happening V)}
    {stage : Stage V} (turn : SignalTurn control clock id call topic deadline log stage) :
    ∀ happening ∈ log, happening.isByCall id := by
  cases turn with
  | overtaken lapsed turn => simpa [Happening.isByCall] using turn.isByCall
  | _ => simp [Happening.isByCall]

theorem Opening.isByCall {id : Nat} {stage : Stage V} {log : List (Happening V)}
    (opens : Opening id stage log) : ∀ happening ∈ log, happening.isByCall id := by
  cases opens <;> simp [Happening.isByCall]

theorem SubmitTurn.isByCall {control : Control SceneError} {before after : Mailbox (Envelope V)}
    {id : Nat} {command : Command V} {log : List (Happening V)} {stage : Stage V}
    (turn : SubmitTurn control before id command log stage after) :
    ∀ happening ∈ log, happening.isByCall id := by
  cases turn <;> simp [Happening.isByCall]

theorem ReplyTurn.isByCall {control : Control SceneError} {clock : Clock} {id : Nat}
    {call : Call V} {response : Response V} {log : List (Happening V)} {stage : Stage V}
    (turn : ReplyTurn control clock id call response log stage) :
    ∀ happening ∈ log, happening.isByCall id := by
  cases turn with
  | answered final => simp [Happening.isByCall]
  | registered deadline asks accepted turn => exact turn.isByCall

theorem CallTurn.isByCall {session : Session V} {id : Nat} {call : Call V}
    {log : List (Happening V)} {changes : List (CallChange V)} {mailbox : Mailbox (Envelope V)}
    (turn : CallTurn session id call log changes mailbox) :
    ∀ happening ∈ log, happening.isByCall id := by
  cases turn with
  | stops fresh asks turn => simpa [Happening.isByCall] using turn.isByCall
  | waits fresh asks turn => simpa [Happening.isByCall] using turn.isByCall
  | overtaken waiting lapsed turn => simpa [Happening.isByCall] using turn.isByCall
  | listens waiting asks turn => exact turn.isByCall
  | asks waiting turn => exact turn.isByCall
  | replied waiting filled turn => simpa [Happening.isByCall] using turn.isByCall
  | submits opens sends turn =>
      intro happening member
      rcases List.mem_append.mp member with opening | submitting
      · exact opens.isByCall happening opening
      · exact turn.isByCall happening submitting
  | _ => simp [Happening.isByCall]

theorem isByCleanup_of_mem_cleanupLog {phase : Phase} {prop : StoredProp V}
    {happening : Happening V} (member : happening ∈ cleanupLog phase prop) :
    happening.isByCleanup := by
  unfold cleanupLog at member
  split at member
  · cases member
  · dsimp only at member
    split at member <;> simp at member
    · rcases member with rfl | rfl <;> trivial
    · subst member
      trivial

theorem isByCleanup_of_mem_teardownLog {session : Session V} {happening : Happening V}
    (member : happening ∈ session.teardownLog) : happening.isByCleanup := by
  obtain ⟨prop, -, logged⟩ := List.mem_flatMap.mp member
  exact isByCleanup_of_mem_cleanupLog logged

theorem isByCleanup_of_mem_effect_log {session : Session V} {caller : Nat}
    {command : Command V} {happening : Happening V}
    (member : happening ∈ (session.effect caller command).log) : happening.isByCleanup := by
  cases command with
  | store prop => unfold effect at member; dsimp only at member; split at member <;> cases member
  | fetch key => cases member
  | dispose key =>
      unfold effect at member
      dsimp only at member
      split at member
      · cases member
      · exact isByCleanup_of_mem_cleanupLog member
  | signal topic => unfold effect at member; dsimp only at member; split at member <;> cases member
  | subscribe topic => cases member

/-! ## The control surface along the journal -/

section Steering

variable (log : List (Happening V)) (control : Control SceneError)

theorem foldl_steer_forget (lost : Bool) :
    { log.foldl steer control with lost } = log.foldl steer { control with lost } := by
  induction log generalizing control with
  | nil => rfl
  | cons first rest inductionHypothesis =>
      have commutes : { steer control first with lost } = steer { control with lost } first := by
        cases first <;> rfl
      rw [List.foldl_cons, List.foldl_cons, inductionHypothesis, commutes]

theorem foldl_steer_lost : (log.foldl steer control).lost = control.lost := by
  induction log generalizing control with
  | nil => rfl
  | cons first rest inductionHypothesis =>
      rw [List.foldl_cons, inductionHypothesis]
      cases first <;> rfl

theorem foldl_steer_ending :
    (log.foldl steer control).ending = (control.ending || log.any Happening.beginsEnding) := by
  induction log generalizing control with
  | nil => simp
  | cons first rest inductionHypothesis =>
      rw [List.foldl_cons, inductionHypothesis]
      cases first <;> simp [steer, Happening.beginsEnding, Control.requestStop, Control.kill,
        Control.conclude]

variable {log} (steady : ∀ happening ∈ log, happening.concludes = false)
include steady

/-- A part of the control surface that only a conclusion or an end changes. -/
theorem foldl_steer_same {Part : Type} (part : Control SceneError → Part)
    (kept : ∀ control (happening : Happening V), happening.concludes = false →
      part (steer control happening) = part control) :
    part (log.foldl steer control) = part control := by
  induction log generalizing control with
  | nil => rfl
  | cons first rest inductionHypothesis =>
      rw [List.foldl_cons, inductionHypothesis _ fun happening member =>
        steady happening (List.mem_cons_of_mem _ member)]
      exact kept control first (steady first (List.mem_cons_self ..))

theorem foldl_steer_outcome : (log.foldl steer control).outcome = control.outcome :=
  foldl_steer_same control steady Control.outcome fun _ happening calm => by
    cases happening <;> first | rfl | cases calm

theorem foldl_steer_concluded : (log.foldl steer control).concluded = control.concluded :=
  foldl_steer_same control steady Control.concluded fun _ happening calm => by
    cases happening <;> first | rfl | cases calm

/-- Whoever makes a scene start to end, other than its backend, asks it to stop. -/
theorem foldl_steer_stopRequested
    (asked : control.ending = true → control.stopRequested = true)
    (ending : (log.foldl steer control).ending = true) :
    (log.foldl steer control).stopRequested = true := by
  induction log generalizing control with
  | nil => exact asked ending
  | cons first rest inductionHypothesis =>
      refine inductionHypothesis _ (fun happening member =>
        steady happening (List.mem_cons_of_mem _ member)) ?_ ending
      have calm := steady first (List.mem_cons_self ..)
      cases first <;> first | exact asked | exact fun _ => rfl | cases calm

end Steering

/-! ## The course of a step -/

theorem isServing.runs {session : Session V} (serving : session.isServing) :
    session.backendRuns = true := by
  obtain ⟨absolute, inactivity, backend⟩ := serving
  unfold backendRuns
  rw [backend]

theorem isServing.ne_returned {session : Session V} (serving : session.isServing) :
    session.backend ≠ .returned := by
  obtain ⟨absolute, inactivity, backend⟩ := serving
  simp [backend]

theorem isServing.ne_lost {session : Session V} (serving : session.isServing) :
    session.backend ≠ .lost := by
  obtain ⟨absolute, inactivity, backend⟩ := serving
  simp [backend]

/-- The steps of a scene by what they mean for its backend: it goes on as it was, it
serves, it ends, or it is lost. -/
inductive Course (before after : Session V) : Prop where
  | calm {log : List (Happening V)} (calm : ∀ happening ∈ log, happening.isCalm = true)
      (happenings : after.happenings = before.happenings ++ log)
      (control : after.control = log.foldl steer before.control)
      (visiting : after.visiting = before.visiting)
      (limits : after.absolute = before.absolute ∧ after.inactivity = before.inactivity)
      (props : after.props = before.props)
      (subscriptions : after.subscriptions = before.subscriptions)
      (backend : after.backend = before.backend
        ∨ before.backendRuns = true ∧ after.backendRuns = true)
  | serves {envelope : Envelope V} {rest : Mailbox (Envelope V) × Option Nat}
      (serving : before.isServing) (unstopped : before.control.stopRequested = false)
      (taken : before.mailbox.take? = some (envelope, rest))
      (served : after = before.serveOne envelope rest)
  | ends {log : List (Happening V)} {heralds : List Event} {error : Option SceneError}
      (serving : before.isServing) (cause : EndCause before log heralds error after)
  | loses (lost : after = before.dropTasks)

theorem Advance.course {before after : Session V} (step : Advance before after) :
    Course before after := by
  cases step with
  | drifts growth =>
      exact .calm (by simp) growth.happenings growth.control growth.visiting
        ⟨growth.absolute, growth.inactivity⟩ growth.props growth.subscriptions
        (.inl growth.backend)
  | makes request =>
      have growth := before.makeCall_evolves request
      exact .calm (by simp) growth.happenings growth.control growth.visiting
        ⟨growth.absolute, growth.inactivity⟩ growth.props growth.subscriptions
        (.inl growth.backend)
  | turns found =>
      obtain ⟨log, changes, mailbox, turn, growth, -⟩ := before.resumeCall_turnsBy _ _ found
      exact .calm (fun happening member => (turn.isByCall happening member).calm)
        growth.happenings growth.control growth.visiting
        ⟨growth.absolute, growth.inactivity⟩ growth.props growth.subscriptions
        (.inl growth.backend)
  | cancels found unfinished =>
      obtain ⟨growth, -⟩ := before.cancel_evolves found unfinished
      exact .calm (by simp [Happening.isCalm]) growth.happenings growth.control growth.visiting
        ⟨growth.absolute, growth.inactivity⟩ growth.props growth.subscriptions
        (.inl growth.backend)
  | opens fresh =>
      have growth := before.openUp_evolves
      refine .calm (by simp [Happening.isCalm]) growth.happenings growth.control growth.visiting
        ⟨growth.absolute, growth.inactivity⟩ growth.props growth.subscriptions
        (.inr ⟨?_, ?_⟩)
      · simp [backendRuns, fresh]
      · exact isServing.runs ⟨_, _, growth.backend⟩
  | processes serving unstopped undue taken => exact .serves serving unstopped taken rfl
  | ends serving cause => exact .ends serving cause
  | loses => exact .loses rfl

theorem steady_serveLog (session : Session V) (envelope : Envelope V) :
    ∀ happening ∈ session.serveLog envelope, happening.concludes = false := by
  intro happening member
  rcases List.mem_append.mp member with cleaned | processed
  · exact (isByCleanup_of_mem_effect_log cleaned).steady
  · rw [List.mem_singleton.mp processed]
    rfl

/-! ## The invariant -/

/-- The control surface is what the journal makes it, and agrees with the state of
the backend. -/
structure Steered (session : Session V) : Prop where
  control : { session.control with lost := false } = session.happenings.foldl steer {}
  running : session.backendRuns = true →
    session.control.outcome = none ∧ session.control.concluded = false
      ∧ session.control.lost = false
      ∧ (session.control.ending = true → session.control.stopRequested = true)
  returned : session.backend = .returned →
    session.control.outcome.isSome = true ∧ session.control.ending = true
      ∧ session.control.lost = false
  lost : session.backend = .lost → session.control.lost = true ∧ session.control.outcome = none

theorem IsInitial.steered {session : Session V} (initial : session.IsInitial) :
    session.Steered where
  control := by simp [initial.control, happenings, initial.journal]
  running _ := by simp [initial.control]
  returned returned := by simp [initial.backend] at returned
  lost lost := by simp [initial.backend] at lost

/-- Records that conclude nothing keep the invariant while the backend stays as it is
or goes on running. -/
theorem Steered.proceed {before after : Session V} (steered : before.Steered)
    {log : List (Happening V)} (steady : ∀ happening ∈ log, happening.concludes = false)
    (happenings : after.happenings = before.happenings ++ log)
    (control : after.control = log.foldl steer before.control)
    (backend : after.backend = before.backend
      ∨ before.backendRuns = true ∧ after.backendRuns = true) : after.Steered := by
  have outcome := foldl_steer_outcome before.control steady
  have concluded := foldl_steer_concluded before.control steady
  have lost := foldl_steer_lost log before.control
  have ending := foldl_steer_ending log before.control
  rw [← control] at outcome concluded lost ending
  constructor
  case control =>
    rw [happenings, List.foldl_append, ← steered.control, control, foldl_steer_forget]
  case running =>
    intro runs
    have ran : before.backendRuns = true := by
      rcases backend with same | ⟨ran, -⟩
      · simpa only [backendRuns, same] using runs
      · exact ran
    obtain ⟨unset, unconcluded, present, asked⟩ := steered.running ran
    refine ⟨outcome.trans unset, concluded.trans unconcluded, lost.trans present, ?_⟩
    rw [control]
    exact foldl_steer_stopRequested _ steady asked
  case returned =>
    intro returned
    rcases backend with same | ⟨-, runs⟩
    · obtain ⟨set, ended, present⟩ := steered.returned (same ▸ returned)
      exact ⟨outcome ▸ set, by simp [ending, ended], lost.trans present⟩
    · simp [backendRuns, returned] at runs
  case lost =>
    intro gone
    rcases backend with same | ⟨-, runs⟩
    · obtain ⟨flagged, unset⟩ := steered.lost (same ▸ gone)
      exact ⟨lost.trans flagged, outcome.trans unset⟩
    · simp [backendRuns, gone] at runs

theorem Steered.advance {before after : Session V} (steered : before.Steered)
    (step : Advance before after) : after.Steered := by
  cases step.course with
  | calm calm happenings control visiting limits props subscriptions backend =>
      exact steered.proceed (fun happening member =>
        Happening.concludes_of_isCalm (calm happening member)) happenings control backend
  | @serves envelope rest serving unstopped taken served =>
      obtain ⟨backend, -, growth⟩ := serveOne_evolves serving envelope rest
      subst served
      exact steered.proceed (before.steady_serveLog envelope) growth.happenings growth.control
        (.inr ⟨serving.runs, (serveOne_isServing serving envelope rest).runs⟩)
  | @ends log heralds error serving cause =>
      have notLost := (steered.running serving.runs).2.2.1
      constructor
      case control =>
        rw [cause.happenings, List.foldl_append, ← steered.control, cause.control,
          foldl_steer_forget]
      case running =>
        intro runs
        simp [backendRuns, cause.backend] at runs
      case returned =>
        intro _
        refine ⟨by rw [cause.outcome]; rfl, cause.ending, ?_⟩
        rw [cause.control, foldl_steer_lost]
        exact notLost
      case lost =>
        intro gone
        rw [cause.backend] at gone
        cases gone
  | loses lost =>
      subst lost
      constructor
      case control =>
        exact steered.control
      case running =>
        intro runs
        exact absurd runs (by simp [backendRuns_dropTasks])
      case returned =>
        intro returned
        obtain ⟨set, ended, present⟩ :=
          steered.returned (backend_dropTasks_returned.mp returned)
        refine ⟨set, ended, ?_⟩
        simp [dropTasks, Control.lose, Control.isFinished, set, present]
      case lost =>
        intro gone
        cases runs : before.backendRuns with
        | true =>
            obtain ⟨unset, -, -, -⟩ := steered.running runs
            exact ⟨by simp [dropTasks, Control.lose, Control.isFinished, unset], unset⟩
        | false =>
            have same : before.backend = .lost := by simpa [dropTasks, runs] using gone
            obtain ⟨flagged, unset⟩ := steered.lost same
            exact ⟨by simp [dropTasks, Control.lose, flagged], unset⟩

theorem Passed.steered {session : Session V} (passed : Passed session) :
    session.Steered := by
  induction passed with
  | initial initial => exact initial.steered
  | advance passed step inductionHypothesis =>
      exact inductionHypothesis.advance step

theorem Steered.ending_iff {session : Session V} (steered : session.Steered) :
    session.control.ending = true
      ↔ ∃ happening ∈ session.happenings, happening.beginsEnding = true := by
  have ending := foldl_steer_ending session.happenings {}
  rw [← steered.control] at ending
  have same : session.control.ending = session.happenings.any Happening.beginsEnding := by
    simpa using ending
  rw [same, List.any_eq_true]

end Session

end BoundedScene
