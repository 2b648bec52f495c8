import BoundedScene.Proofs.Cleanups

/-!
Contract: which result a scene ends with.

Owns:
- `verdict`, the terminal result read off the journal alone;
- the proof that a backend which returned has stored that result.

Main statement: `terminal_result`.

Does not own: what waiting callers make of the result.
-/

namespace BoundedScene

open BoundedScene.Supervision (Control)

namespace Happening

variable {V : Type}

def abortCause? : Happening V → Option Cause
  | .aborted cause => some cause
  | _ => none

/-- The deadline at which the backend concludes, if it does so at one. -/
def deadline? : Happening V → Option (TimeoutKind × Span)
  | .concluded deadline => deadline
  | _ => none

def isEnd : Happening V → Bool
  | .ended _ => true
  | _ => false

theorem unremarkable_of_isByCleanup {happening : Happening V}
    (byCleanup : happening.isByCleanup) :
    happening.isEnd = false ∧ happening.deadline? = none := by
  cases happening <;> first | exact ⟨rfl, rfl⟩ | cases byCleanup

end Happening

/-- The cause of the first abort that came before the backend concluded on its own. -/
def firstAbort? {V : Type} (history : List (Happening V)) : Option Cause :=
  (history.takeWhile fun happening => !happening.concludes).findSome? Happening.abortCause?

/-- The result that a scene with a given history ends with: that of the first abort in
time, or else of the deadline that fired, or else of the first failing cleanup of the
props that were left, in visiting order. -/
def verdict {V : Type} (visiting : VisitingOrder V) (history : List (Happening V)) :
    Except SceneError Unit :=
  match firstAbort? history with
  | some cause => .error (.aborted cause)
  | none =>
      match history.findSome? Happening.deadline? with
      | some (kind, after) => .error (.timeout kind after)
      | none =>
          match (visiting.arrange
              (Processed.leftover (history.filterMap Happening.processed?))).findSome?
                Session.cleanupFailure? with
          | some failure => .error failure
          | none => .ok ()

namespace Session

variable {V : Type}

/-- What happened before the terminal result was stored. -/
def history (session : Session V) : List (Happening V) :=
  session.happenings.takeWhile fun happening => !happening.isEnd

/-- The configured length of a deadline. -/
def configured? (session : Session V) : TimeoutKind → Option Span
  | .absolute => session.absolute
  | .inactivity => session.inactivity

/-! ## Which abort is recorded -/

theorem killed_of_killed {control : Control SceneError} {error : SceneError}
    (killed : control.killed = some error) (log : List (Happening V)) :
    (log.foldl steer control).killed = some error := by
  induction log generalizing control with
  | nil => exact killed
  | cons first rest inductionHypothesis =>
      refine inductionHypothesis ?_
      cases first <;> simp [steer, Control.requestStop, Control.kill, Control.conclude,
        Control.acceptsKill, killed]

theorem killed_of_concluded {control : Control SceneError} (unkilled : control.killed = none)
    (concluded : control.concluded = true ∨ control.outcome.isSome = true)
    (log : List (Happening V)) : (log.foldl steer control).killed = none := by
  induction log generalizing control with
  | nil => exact unkilled
  | cons first rest inductionHypothesis =>
      have refused : control.acceptsKill = false := by
        rcases concluded with flag | set
        · simp [Control.acceptsKill, flag]
        · simp [Control.acceptsKill, Control.isFinished, set]
      apply inductionHypothesis
      · cases first <;> simp [steer, Control.requestStop, Control.kill, Control.conclude, refused,
          unkilled]
      · cases first <;> simp_all [steer, Control.requestStop, Control.kill, Control.conclude]

/-- The recorded abort is the first one that came in time. -/
theorem killed_eq_firstAbort {control : Control SceneError} (unkilled : control.killed = none)
    (unconcluded : control.concluded = false) (unset : control.outcome = none)
    (log : List (Happening V)) :
    (log.foldl steer control).killed = (firstAbort? log).map SceneError.aborted := by
  induction log generalizing control with
  | nil => simpa [firstAbort?] using unkilled
  | cons first rest inductionHypothesis =>
      have accepts : control.acceptsKill = true := by
        simp [Control.acceptsKill, Control.isFinished, unkilled, unconcluded, unset]
      have passes (calm : first.concludes = false) (harmless : first.abortCause? = none) :
          firstAbort? (first :: rest) = firstAbort? rest := by
        unfold firstAbort?
        rw [List.takeWhile_cons_of_pos (by simp [calm]), List.findSome?_cons, harmless]
      rw [List.foldl_cons]
      cases first with
      | aborted cause =>
          have killed : (steer control (.aborted cause : Happening V)).killed
              = some (.aborted cause) := by
            simp [steer, Control.kill, accepts]
          rw [killed_of_killed killed]
          rfl
      | concluded deadline =>
          have stillOpen : (steer control (.concluded deadline : Happening V)).killed = none :=
            unkilled
          exact killed_of_concluded stillOpen (.inl rfl) rest
      | ended result =>
          have stillOpen : (steer control (.ended result : Happening V)).killed = none := unkilled
          exact killed_of_concluded stillOpen (.inr rfl) rest
      | _ =>
          rw [passes rfl rfl]
          exact inductionHypothesis unkilled unconcluded unset

/-! ## The end -/

theorem foldl_steer_isFinished (log : List (Happening V)) (control : Control SceneError) :
    (log.foldl steer control).isFinished
      = (control.isFinished || log.any Happening.isEnd) := by
  induction log generalizing control with
  | nil => simp
  | cons first rest inductionHypothesis =>
      rw [List.foldl_cons, inductionHypothesis]
      cases first <;> simp [steer, Happening.isEnd, Control.isFinished, Control.requestStop,
        Control.kill, Control.conclude]

theorem deadline?_of_unconcluded {log : List (Happening V)} {control : Control SceneError}
    (unconcluded : (log.foldl steer control).concluded = false) :
    ∀ happening ∈ log, happening.deadline? = none := by
  induction log generalizing control with
  | nil => simp
  | cons first rest inductionHypothesis =>
      rw [List.forall_mem_cons]
      refine ⟨?_, inductionHypothesis unconcluded⟩
      cases first with
      | concluded deadline =>
          have flagged (log : List (Happening V)) {control : Control SceneError}
              (concluded : control.concluded = true) :
              (log.foldl steer control).concluded = true := by
            induction log generalizing control with
            | nil => exact concluded
            | cons first rest inductionHypothesis =>
                exact inductionHypothesis (by cases first <;> first | exact concluded | rfl)
          rw [List.foldl_cons, flagged rest rfl] at unconcluded
          cases unconcluded
      | _ => rfl

/-- While the backend runs, the control surface is the one that the journal makes. -/
theorem Steered.control_of_runs {session : Session V} (steered : session.Steered)
    (runs : session.backendRuns = true) :
    session.control = session.happenings.foldl steer {} := by
  have present := (steered.running runs).2.2.1
  rw [← steered.control, ← present]

/-- The history of a scene whose backend ends now. -/
theorem history_of_end {before after : Session V} (steered : before.Steered)
    (serving : before.isServing) {log : List (Happening V)} {heralds : List Event}
    {error : Option SceneError} (cause : EndCause before log heralds error after) :
    after.history = before.happenings ++ (log ++ before.teardownLog) := by
  have happenings := cause.happenings
  have early : ∀ happening ∈ before.happenings ++ (log ++ before.teardownLog),
      (!happening.isEnd) = true := by
    intro happening member
    have unset := (steered.running serving.runs).1
    have unfinished : before.happenings.any Happening.isEnd = false := by
      have finished := foldl_steer_isFinished before.happenings {}
      rw [← steered.control_of_runs serving.runs] at finished
      simpa [Control.isFinished, unset] using finished.symm
    simp only [List.mem_append] at member
    rcases member with old | new | torn
    · simpa using List.any_eq_false.mp unfinished happening old
    · cases cause <;> simp_all [Happening.isEnd]
    · simp [(Happening.unremarkable_of_isByCleanup (isByCleanup_of_mem_teardownLog torn)).1]
  unfold history
  rw [happenings, endLog, ← List.append_assoc, List.takeWhile_append_of_pos early]
  simp [Happening.isEnd]

/-- The error that makes the backend end is the timeout of the deadline that fired. -/
theorem error_of_end {before after : Session V} (steered : before.Steered)
    (serving : before.isServing) {log : List (Happening V)} {heralds : List Event}
    {error : Option SceneError} (cause : EndCause before log heralds error after) :
    error = (after.history.findSome? Happening.deadline?).map
      fun deadline => .timeout deadline.1 deadline.2 := by
  have unconcluded := (steered.running serving.runs).2.1
  rw [steered.control_of_runs serving.runs] at unconcluded
  have old := List.findSome?_eq_none_iff.mpr (deadline?_of_unconcluded unconcluded)
  have torn : before.teardownLog.findSome? Happening.deadline? = none :=
    List.findSome?_eq_none_iff.mpr fun happening member =>
      (Happening.unremarkable_of_isByCleanup (isByCleanup_of_mem_teardownLog member)).2
  rw [history_of_end steered serving cause, List.findSome?_append, old, List.findSome?_append,
    torn]
  cases cause <;> rfl

/-- Every command was processed before the end. -/
theorem processed_history_of_end {before after : Session V} (steered : before.Steered)
    (serving : before.isServing) {log : List (Happening V)} {heralds : List Event}
    {error : Option SceneError} (cause : EndCause before log heralds error after) :
    after.history.filterMap Happening.processed? = before.ledger := by
  have torn : before.teardownLog.filterMap Happening.processed? = [] :=
    Happening.processed_of_isByCleanup fun _ member => isByCleanup_of_mem_teardownLog member
  rw [history_of_end steered serving cause, List.filterMap_append, List.filterMap_append, torn]
  cases cause <;> simp [ledger, Happening.processed?, List.filterMap_cons]

theorem verdict_of_end {before after : Session V} (steered : before.Steered)
    (holding : before.Holding) (serving : before.isServing) {log : List (Happening V)}
    {heralds : List Event} {error : Option SceneError}
    (cause : EndCause before log heralds error after) :
    before.resultAfter log error = verdict before.visiting after.history := by
  have history := history_of_end steered serving cause
  have errors := error_of_end steered serving cause
  have killed : ((log ++ before.teardownLog).foldl steer before.control).killed
      = (firstAbort? after.history).map SceneError.aborted := by
    rw [history, steered.control_of_runs serving.runs, ← List.foldl_append]
    exact killed_eq_firstAbort rfl rfl rfl _
  have ledgers := processed_history_of_end steered serving cause
  have failures : (before.visiting.arrange (Processed.leftover
      (after.history.filterMap Happening.processed?))).findSome? cleanupFailure?
        = before.teardownFailures.head? := by
    rw [ledgers, ← holding.kept serving.runs]
    exact List.head?_filterMap.symm
  unfold resultAfter verdict Control.resolve
  rw [killed, failures]
  cases firstAbort? after.history with
  | some abortion => rfl
  | none =>
      dsimp only [Option.map_none]
      rw [errors]
      cases after.history.findSome? Happening.deadline? with
      | some deadline => rfl
      | none => cases before.teardownFailures <;> rfl

theorem left_of_verdict_cleanupFailed {visiting : VisitingOrder V} {history : List (Happening V)}
    {key : String} {source : Cause}
    (failed : verdict visiting history = .error (.cleanupFailed key source)) :
    ∃ prop ∈ Processed.leftover (history.filterMap Happening.processed?),
      cleanupFailure? prop = some (.cleanupFailed key source) := by
  unfold verdict at failed
  split at failed
  · cases failed
  · split at failed
    · cases failed
    · split at failed
      case h_1 failure first =>
        cases failed
        obtain ⟨prop, visited, failure⟩ := List.exists_of_findSome?_eq_some first
        exact ⟨prop, (visiting.perm _).mem_iff.mp visited, failure⟩
      case h_2 => cases failed

/-! ## Along a run -/

/-- A scene whose backend returned has its verdict, and a deadline that made it end had
the configured length. -/
structure Judged (session : Session V) : Prop where
  ended : session.backend = .returned →
    session.happenings.any Happening.isEnd = true
      ∧ session.control.outcome = some (verdict session.visiting session.history)
  configured : ∀ kind after, .concluded (some (kind, after)) ∈ session.happenings →
    session.configured? kind = some after

theorem takeWhile_append_of_stop {α : Type} {continues : α → Bool} {first : List α}
    (stops : first.any (fun element => !continues element) = true) (second : List α) :
    (first ++ second).takeWhile continues = first.takeWhile continues := by
  induction first with
  | nil => cases stops
  | cons head tail inductionHypothesis =>
      rw [List.cons_append, List.takeWhile_cons, List.takeWhile_cons]
      cases going : continues head with
      | true =>
          have later : tail.any (fun element => !continues element) = true := by
            simpa [going] using stops
          rw [if_pos rfl, if_pos rfl, inductionHypothesis later]
      | false => rfl

theorem history_append {before after : Session V} {log : List (Happening V)}
    (happenings : after.happenings = before.happenings ++ log)
    (ended : before.happenings.any Happening.isEnd = true) : after.history = before.history := by
  unfold history
  rw [happenings]
  exact takeWhile_append_of_stop (by simpa using ended) log

theorem IsInitial.judged {session : Session V} (initial : session.IsInitial) :
    session.Judged where
  ended returned := by simp [initial.backend] at returned
  configured kind after member := by simp [happenings, initial.journal] at member

theorem configured?_of_limits (before : Session V) {after : Session V}
    (limits : after.absolute = before.absolute ∧ after.inactivity = before.inactivity)
    (kind : TimeoutKind) : after.configured? kind = before.configured? kind := by
  cases kind with
  | absolute => exact limits.1
  | inactivity => exact limits.2

theorem configured?_of_due {session : Session V} {kind : TimeoutKind} {after : Span}
    (due : session.dueDeadline? = some (kind, after)) :
    session.configured? kind = some after := by
  unfold dueDeadline? at due
  split at due
  · split at due
    · obtain ⟨length, set, same⟩ := Option.map_eq_some_iff.mp due
      cases same
      exact set
    · split at due
      · obtain ⟨length, set, same⟩ := Option.map_eq_some_iff.mp due
        cases same
        exact set
      · cases due
  · cases due

/-- Records that conclude nothing keep the judgement. -/
theorem Judged.proceed {before after : Session V} (judged : before.Judged)
    {log : List (Happening V)} (steady : ∀ happening ∈ log, happening.concludes = false)
    (happenings : after.happenings = before.happenings ++ log)
    (control : after.control = log.foldl steer before.control)
    (visiting : after.visiting = before.visiting)
    (limits : after.absolute = before.absolute ∧ after.inactivity = before.inactivity)
    (backend : after.backend = .returned → before.backend = .returned) : after.Judged where
  ended returned := by
    obtain ⟨ended, stored⟩ := judged.ended (backend returned)
    rw [happenings, List.any_append, ended, control, foldl_steer_outcome _ steady, visiting,
      history_append happenings ended]
    exact ⟨rfl, stored⟩
  configured kind length member := by
    rw [configured?_of_limits before limits]
    rw [happenings, List.mem_append] at member
    rcases member with old | new
    · exact judged.configured kind length old
    · have calm := steady _ new
      cases calm

theorem Judged.advance {before after : Session V} (judged : before.Judged)
    (steered : before.Steered) (holding : before.Holding) (step : Advance before after) :
    after.Judged := by
  cases step.course with
  | calm calm happenings control visiting limits props subscriptions backend =>
      refine judged.proceed (fun happening member =>
        Happening.concludes_of_isCalm (calm happening member)) happenings control visiting limits
        fun returned => ?_
      rcases backend with same | ⟨-, runs⟩
      · exact same ▸ returned
      · simp [backendRuns, returned] at runs
  | @serves envelope rest serving unstopped taken served =>
      obtain ⟨backend, ⟨absolute, inactivity, rfl⟩, growth⟩ :=
        serveOne_evolves serving envelope rest
      subst served
      refine judged.proceed (before.steady_serveLog envelope) growth.happenings growth.control
        growth.visiting ⟨growth.absolute, growth.inactivity⟩ fun returned => ?_
      rw [growth.backend] at returned
      cases returned
  | @ends log heralds error serving cause =>
      have growth := cause.evolves
      constructor
      case ended =>
        intro _
        constructor
        · rw [cause.happenings, endLog]
          simp [Happening.isEnd]
        · rw [cause.visiting, ← verdict_of_end steered holding serving cause, cause.outcome]
      case configured =>
        intro kind length member
        rw [configured?_of_limits before ⟨growth.absolute, growth.inactivity⟩]
        rw [cause.happenings, endLog, List.mem_append, List.mem_append, List.mem_append] at member
        rcases member with old | (new | torn) | last
        · exact judged.configured kind length old
        · cases cause with
          | stopped => cases new
          | timedOut unstopped due =>
              cases List.mem_singleton.mp new
              exact configured?_of_due due
          | abandoned => cases List.mem_singleton.mp new
        · cases isByCleanup_of_mem_teardownLog torn
        · cases List.mem_singleton.mp last
  | loses lost =>
      subst lost
      exact {
        ended := fun returned => judged.ended (backend_dropTasks_returned.mp returned)
        configured := judged.configured }

theorem Passed.judged {session : Session V} (passed : Passed session) :
    session.Judged := by
  induction passed with
  | initial initial => exact initial.judged
  | advance passed step inductionHypothesis =>
      exact inductionHypothesis.advance passed.steered passed.holding step

/-- A backend that returned has stored the verdict on what happened until then; a deadline
that made it end has the configured length; and a failed cleanup is its result only if the
prop was left when the scene ended. -/
theorem terminal_result {session : Session V} (reachable : Reachable session)
    (returned : session.backend = .returned) :
    session.control.outcome = some (verdict session.visiting session.history)
      ∧ (∀ kind after, .concluded (some (kind, after)) ∈ session.happenings →
          session.configured? kind = some after)
      ∧ ∀ key source, session.control.outcome = some (.error (.cleanupFailed key source)) →
          ∃ prop ∈ Processed.leftover (session.history.filterMap Happening.processed?),
            cleanupFailure? prop = some (.cleanupFailed key source) := by
  have judged := reachable.passed.judged
  have stored := (judged.ended returned).2
  refine ⟨stored, judged.configured, fun key source failed => ?_⟩
  rw [stored, Option.some.injEq] at failed
  exact left_of_verdict_cleanupFailed failed

/-- A cleanup aborts the scene and fails while a graceful stop tears the props down. -/
def abortInTeardown : List (Move Nat) :=
  let aborting : Cleanup :=
    { act := .abort (.foreign "leaking"), outcome := .fail (.foreign "jammed") }
  [.act (.call (.store "n" 1 (some aborting))), .resume (.call 0), .resume .backend,
    .act (.call .stop), .resume (.call 1), .resume .backend]

theorem terminal_result_abortInTeardown :
    (plain.moves abortInTeardown).backend = .returned
      ∧ (plain.moves abortInTeardown).control.outcome
        = some (.error (.aborted (.foreign "leaking"))) := by
  have returned : (plain.moves abortInTeardown).backend = .returned := by decide +kernel
  refine ⟨returned, ?_⟩
  exact (terminal_result (reachable_plain.moves abortInTeardown) returned).1.trans rfl

end Session

end BoundedScene
