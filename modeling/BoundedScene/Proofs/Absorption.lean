import BoundedScene.Proofs.Classification

/-!
Contract: the end of a scene is final, and everybody is told the same of it.

Owns:
- `Silenced` and `calls_of_halted`, what the steps of a scene without a backend keep;
- `Unmoved`, what no step changes once the backend has returned;
- `LateCall`, all that becomes of a call that had not begun its work by then;
- `Unanimous`, that whoever is told of the end is told the one terminal result.

Main statement: `ended_is_absorbing`.

Does not own: which result a scene ends with.
-/

namespace BoundedScene

open BoundedScene.Supervision (Control)

/-- Whether a call in this stage waits for something other than a slot. -/
def Stage.isUnderway {V : Type} : Stage V → Bool
  | .awaitingReply => true
  | .awaitingSignal _ => true
  | .awaitingResult => true
  | _ => false

namespace Session

variable {V : Type} {session before after : Session V} {id : Nat} {call : Call V}
  {result : Except SceneError Unit}

/-! ## Halted scenes -/

/-- What a step leaves alone once the backend is gone: the phase, and all that tells of
the backend. -/
structure Silenced (before after : Session V) : Prop where
  backend : after.backend = before.backend
  phase : after.phase = before.phase
  ledger : after.ledger = before.ledger
  cleanups : after.cleanups = before.cleanups
  events : after.backendEvents = before.backendEvents

theorem Silenced.refl (session : Session V) : Silenced session session :=
  ⟨rfl, rfl, rfl, rfl, rfl⟩

theorem Silenced.trans {middle : Session V} (first : Silenced before middle)
    (second : Silenced middle after) : Silenced before after where
  backend := second.backend.trans first.backend
  phase := second.phase.trans first.phase
  ledger := second.ledger.trans first.ledger
  cleanups := second.cleanups.trans first.cleanups
  events := second.events.trans first.events

/-- A calm growth that publishes nothing, up to the calls and the mailbox. -/
theorem silenced_of_growth {log : List (Happening V)} {changes : List (CallChange V)}
    {agenda : Agenda SceneTask} {handles : List Bool} {calls : List (Call V)}
    {mailbox : Mailbox (Envelope V)} (calm : ∀ happening ∈ log, happening.isCalm = true)
    (growth : Evolves log changes [] { before with agenda, handles, calls, mailbox } after) :
    Silenced before after where
  backend := growth.backend
  phase := growth.phase
  ledger := by
    rw [ledger_of_happenings before growth.happenings, Happening.processed_of_calm calm,
      List.append_nil]
  cleanups := by
    rw [cleanups_of_happenings before growth.happenings, Happening.cleaned_of_calm calm,
      List.append_nil]
  events := growth.events.trans (List.append_nil _)

theorem not_serving_of_halted (halted : session.backendRuns = false) : ¬session.isServing :=
  fun serving => by
    rw [serving.runs] at halted
    cases halted

theorem not_serving_of_returned (returned : session.backend = .returned) :
    ¬session.isServing :=
  not_serving_of_halted (by simp [backendRuns, returned])

theorem not_fresh_of_halted (halted : session.backendRuns = false) :
    session.backend ≠ .fresh := by
  intro fresh
  simp [backendRuns, fresh] at halted

/-- A backend that is gone does nothing any more. -/
theorem silenced_of_halted (halted : before.backendRuns = false)
    (step : Advance before after) : Silenced before after := by
  cases step with
  | drifts growth => exact silenced_of_growth (by simp) growth
  | makes request => exact silenced_of_growth (by simp) (before.makeCall_evolves request)
  | turns found =>
      obtain ⟨log, changes, mailbox, turn, growth, -⟩ := before.resumeCall_turnsBy _ _ found
      exact silenced_of_growth (fun happening member => (turn.isByCall happening member).calm)
        growth
  | cancels found unfinished =>
      exact silenced_of_growth (by simp [Happening.isCalm])
        (before.cancel_evolves found unfinished).1
  | opens fresh => exact absurd fresh (not_fresh_of_halted halted)
  | processes serving => exact absurd serving (not_serving_of_halted halted)
  | ends serving => exact absurd serving (not_serving_of_halted halted)
  | loses => exact ⟨backend_dropTasks_of_halted halted, rfl, rfl, rfl, rfl⟩

/-- What holds of new calls and of those that were given up, and is kept by their turns,
every step of a halted scene keeps. -/
theorem calls_of_halted {holds : Call V → Prop} (halted : before.backendRuns = false)
    (new : ∀ request, holds { request })
    (gone : ∀ call : Call V, holds { call with stage := .dropped })
    (turned : ∀ {call : Call V} {log : List (Happening V)} {changes : List (CallChange V)}
      {mailbox : Mailbox (Envelope V)}, CallTurn before id call log changes mailbox →
      holds call → holds (Call.applyAll id changes call))
    (held : ∀ call, before.calls[id]? = some call → holds call)
    (step : Advance before after) : ∀ call, after.calls[id]? = some call → holds call := by
  intro call found
  cases step with
  | drifts growth =>
      rw [growth.calls, Option.map_eq_some_iff] at found
      obtain ⟨old, present, rfl⟩ := found
      exact held old present
  | makes request =>
      rw [(before.makeCall_evolves request).calls, Option.map_eq_some_iff] at found
      obtain ⟨old, present, rfl⟩ := found
      replace present : (before.calls ++ [({ request } : Call V)])[id]? = some old := present
      rw [List.getElem?_append] at present
      split at present
      · exact held old present
      · rw [Call.applyAll_nil, List.mem_singleton.mp (List.mem_of_getElem? present)]
        exact new request
  | @turns given turning present =>
      obtain ⟨log, changes, mailbox, turn, growth, -⟩ := before.resumeCall_turnsBy _ _ present
      rw [growth.calls, Option.map_eq_some_iff] at found
      obtain ⟨old, earlier, rfl⟩ := found
      by_cases own : given = id
      · subst own
        obtain rfl : turning = old := Option.some.inj (present.symm.trans earlier)
        exact turned turn (held turning earlier)
      · rw [turn.elsewhere own]
        exact held old earlier
  | @cancels given _ present unfinished =>
      rw [(before.cancel_evolves present unfinished).1.calls, Option.map_eq_some_iff] at found
      obtain ⟨old, earlier, rfl⟩ := found
      by_cases own : given = id
      · have dropped : Call.applyAll id [.stage given .dropped] old
            = { old with stage := .dropped } := by
          simp [Call.apply, own]
        rw [dropped]
        exact gone old
      · have same : Call.applyAll id [.stage given .dropped] old = old := by
          simp [Call.apply, own]
        rw [same]
        exact held old earlier
  | opens fresh => exact absurd fresh (not_fresh_of_halted halted)
  | processes serving => exact absurd serving (not_serving_of_halted halted)
  | ends serving => exact absurd serving (not_serving_of_halted halted)
  | loses =>
      obtain ⟨old, earlier, rfl⟩ := origin_of_dropTasks found
      split
      · exact gone old
      · exact held old earlier

/-! ## The ended scene -/

/-- A scene whose backend has returned with a terminal result. -/
structure Ended (session : Session V) (result : Except SceneError Unit) : Prop where
  returned : session.backend = .returned
  outcome : session.control.outcome = some result
  ending : session.control.ending = true
  phase : session.phase = .ended

theorem Ended.halted (ended : session.Ended result) : session.backendRuns = false := by
  simp [backendRuns, ended.returned]

/-- What a step leaves alone once the scene has ended: the result, the phase, and all
traces of the backend. -/
structure Unmoved (before after : Session V) : Prop where
  backend : after.backend = before.backend
  outcome : after.control.outcome = before.control.outcome
  phase : after.phase = before.phase
  ledger : after.ledger = before.ledger
  cleanups : after.cleanups = before.cleanups
  events : after.backendEvents = before.backendEvents
  notices : after.abortEvents = before.abortEvents

theorem Unmoved.refl (session : Session V) : Unmoved session session :=
  ⟨rfl, rfl, rfl, rfl, rfl, rfl, rfl⟩

theorem Unmoved.trans {middle : Session V} (first : Unmoved before middle)
    (second : Unmoved middle after) : Unmoved before after where
  backend := second.backend.trans first.backend
  outcome := second.outcome.trans first.outcome
  phase := second.phase.trans first.phase
  ledger := second.ledger.trans first.ledger
  cleanups := second.cleanups.trans first.cleanups
  events := second.events.trans first.events
  notices := second.notices.trans first.notices

/-- An abort after the end is not announced, as it is not recorded. -/
theorem notices_of_finished (log : List (Happening V)) {control : Control SceneError}
    (finished : control.isFinished = true) : notices control log = [] := by
  induction log generalizing control with
  | nil => rfl
  | cons first rest inductionHypothesis =>
      have refused : control.acceptsKill = false := by simp [Control.acceptsKill, finished]
      have still : (steer control first).isFinished = true := by
        have finish := foldl_steer_isFinished [first] control
        rw [finished, Bool.true_or] at finish
        exact finish
      rw [notices, inductionHypothesis still, List.append_nil]
      unfold notice
      split
      · rw [refused]
        rfl
      · rfl

/-- A calm growth of an ended scene, up to its calls and its mailbox. -/
theorem unmoved_of_growth (set : before.control.outcome = some result)
    {log : List (Happening V)} {changes : List (CallChange V)} {agenda : Agenda SceneTask}
    {handles : List Bool} {calls : List (Call V)} {mailbox : Mailbox (Envelope V)}
    (calm : ∀ happening ∈ log, happening.isCalm = true)
    (growth : Evolves log changes [] { before with agenda, handles, calls, mailbox } after) :
    Unmoved before after :=
  have silenced := silenced_of_growth calm growth
  { backend := silenced.backend
    phase := silenced.phase
    ledger := silenced.ledger
    cleanups := silenced.cleanups
    events := silenced.events
    outcome := by
      have steady : ∀ happening ∈ log, happening.concludes = false := fun happening member =>
        Happening.concludes_of_isCalm (calm happening member)
      rw [growth.control]
      exact foldl_steer_outcome _ steady
    notices := by
      have finished : before.control.isFinished = true := by simp [Control.isFinished, set]
      have silent := notices_of_finished log finished
      rw [growth.notices]
      show before.abortEvents ++ notices before.control log = before.abortEvents
      rw [silent, List.append_nil] }

/-- No step moves an ended scene on. -/
theorem Ended.unmoved (ended : before.Ended result) (step : Advance before after) :
    Unmoved before after := by
  cases step with
  | drifts growth => exact unmoved_of_growth ended.outcome (by simp) growth
  | makes request =>
      exact unmoved_of_growth ended.outcome (by simp) (before.makeCall_evolves request)
  | turns found =>
      obtain ⟨log, changes, mailbox, turn, growth, -⟩ := before.resumeCall_turnsBy _ _ found
      have calm : ∀ happening ∈ log, happening.isCalm = true := fun happening member =>
        (turn.isByCall happening member).calm
      exact unmoved_of_growth ended.outcome calm growth
  | cancels found unfinished =>
      exact unmoved_of_growth ended.outcome (by simp [Happening.isCalm])
        (before.cancel_evolves found unfinished).1
  | opens fresh =>
      rw [ended.returned] at fresh
      cases fresh
  | processes serving => exact absurd serving (not_serving_of_returned ended.returned)
  | ends serving => exact absurd serving (not_serving_of_returned ended.returned)
  | loses => exact ⟨backend_dropTasks_of_halted ended.halted, rfl, rfl, rfl, rfl, rfl, rfl⟩

theorem Ended.advance (ended : before.Ended result) (steered : before.Steered)
    (step : Advance before after) : after.Ended result := by
  have unmoved := ended.unmoved step
  exact {
    returned := unmoved.backend.trans ended.returned
    outcome := unmoved.outcome.trans ended.outcome
    ending := (step.later steered).ending ended.ending
    phase := unmoved.phase.trans ended.phase }

/-- The backend leaves the scene in its last phase. -/
theorem Passed.phase_of_returned (passed : Passed session)
    (returned : session.backend = .returned) : session.phase = .ended := by
  induction passed with
  | initial initial =>
      rw [initial.backend] at returned
      cases returned
  | @advance before after passed step inductionHypothesis =>
      have kept {log : List (Happening V)} {changes : List (CallChange V)} {events : List Event}
          {earlier : Session V} (growth : Evolves log changes events earlier after)
          (phase : earlier.phase = before.phase) (backend : earlier.backend = before.backend) :
          after.phase = .ended := by
        rw [growth.phase, phase]
        exact inductionHypothesis (backend ▸ growth.backend ▸ returned)
      cases step with
      | drifts growth => exact kept growth rfl rfl
      | makes request => exact kept (before.makeCall_evolves request) rfl rfl
      | turns found =>
          obtain ⟨log, changes, mailbox, turn, growth, -⟩ := before.resumeCall_turnsBy _ _ found
          exact kept growth rfl rfl
      | cancels found unfinished => exact kept (before.cancel_evolves found unfinished).1 rfl rfl
      | opens fresh =>
          rw [before.openUp_evolves.backend] at returned
          cases returned
      | @processes envelope rest serving unstopped undue taken =>
          obtain ⟨absolute, inactivity, still⟩ := serveOne_isServing serving envelope rest
          rw [still] at returned
          cases returned
      | ends serving cause =>
          have last : after.phase = (before.phase.later .ending).later .ended :=
            cause.evolves.phase
          rw [last]
          cases before.phase <;> rfl
      | loses => exact inductionHypothesis (backend_dropTasks_returned.mp returned)

theorem Passed.ended (passed : Passed session) (set : session.control.outcome = some result) :
    session.Ended result := by
  have steered := passed.steered
  have returned : session.backend = .returned := by
    cases runs : session.backendRuns with
    | true =>
        rw [(steered.running runs).1] at set
        cases set
    | false =>
        rcases halted_cases runs with returned | lost
        · exact returned
        · rw [(steered.lost lost).2] at set
          cases set
  exact ⟨returned, set, (steered.returned returned).2.1, passed.phase_of_returned returned⟩

/-! ## Calls that come too late -/

/-- The answer to a call that had not begun its work when the scene ended. -/
def answerAfterEnd (result : Except SceneError Unit) : Request V → Answer V
  | .stop => terminalAnswer .stop result
  | .wait => terminalAnswer .wait result
  | .abort _ => .done
  | .phase => .phase .ended
  | _ => .failed .ended

/-- A call that has not been made, or waits for its first turn or for a slot. -/
def StillToBegin (session : Session V) (id : Nat) : Prop :=
  ∀ call, session.calls[id]? = some call → call.stage = .fresh ∨ call.stage = .seekingSlot

/-- All that becomes of a call that had not begun its work when the scene ended. -/
inductive LateCall (result : Except SceneError Unit) (call : Call V) : Prop where
  | begins (stage : call.stage = .fresh ∨ call.stage = .seekingSlot) : LateCall result call
  | dropped (stage : call.stage = .dropped) : LateCall result call
  | answered {millisecond : Nat}
      (stage : call.stage = .finished (answerAfterEnd result call.request) millisecond) :
      LateCall result call

theorem LateCall.not_underway (late : LateCall result call) :
    call.stage.isUnderway = false := by
  cases late with
  | begins stage =>
      rcases stage with fresh | seeks
      · rw [fresh]
        rfl
      · rw [seeks]
        rfl
  | dropped stage =>
      rw [stage]
      rfl
  | answered stage =>
      rw [stage]
      rfl

theorem answerAfterEnd_of_command {request : Request V} {command : Command V}
    (sends : request.command? = some command) :
    answerAfterEnd result request = .failed .ended := by
  cases request <;> first | rfl | cases sends

theorem ResultTurn.told_after_end {control : Control SceneError} {request : Request V}
    {log : List (Happening V)} {stage : Stage V} (turn : ResultTurn control id request log stage)
    (set : control.outcome = some result) :
    ∃ millisecond, stage = .finished (terminalAnswer request result) millisecond := by
  have settled : settled? control = some result := by simp [settled?, Control.result?, set]
  cases turn with
  | waits unset =>
      rw [settled] at unset
      cases unset
  | told told =>
      obtain rfl := Option.some.inj (settled.symm.trans told)
      exact ⟨_, rfl⟩

/-- A late call does not get beyond its answer. -/
theorem CallTurn.lateCall {log : List (Happening V)} {changes : List (CallChange V)}
    {mailbox : Mailbox (Envelope V)} (turn : CallTurn before id call log changes mailbox)
    (ended : before.Ended result) (late : LateCall result call) :
    LateCall result (Call.applyAll id changes call) := by
  have misplaced {stage : Stage V} (now : call.stage = stage)
      (underway : stage.isUnderway = true) : False := by
    rw [← now, late.not_underway] at underway
    cases underway
  cases turn with
  | rests resting => exact late
  | strays stray => exact late
  | stops fresh asks turn =>
      obtain ⟨millisecond, rfl⟩ := turn.told_after_end ended.outcome
      rw [Call.applyAll_staged]
      exact .answered (by rw [asks]; rfl)
  | waits fresh asks turn =>
      obtain ⟨millisecond, rfl⟩ := turn.told_after_end ended.outcome
      rw [Call.applyAll_staged]
      exact .answered (by rw [asks]; rfl)
  | aborts fresh asks =>
      rw [Call.applyAll_staged]
      exact .answered (by rw [asks]; rfl)
  | looks fresh asks =>
      rw [Call.applyAll_staged]
      exact .answered (by rw [asks, ended.phase]; rfl)
  | submits opens sends turn =>
      rw [Call.applyAll_staged]
      cases turn with
      | refused barred => exact .answered (by rw [answerAfterEnd_of_command sends])
      | enters ongoing =>
          rw [ended.ending] at ongoing
          cases ongoing
      | linesUp ongoing =>
          rw [ended.ending] at ongoing
          cases ongoing
  | replied waiting => exact (misplaced waiting rfl).elim
  | overtaken waiting => exact (misplaced waiting rfl).elim
  | listens waiting => exact (misplaced waiting rfl).elim
  | asks waiting => exact (misplaced waiting rfl).elim

/-- A call that is late stays so, whatever happens. -/
theorem Ended.late (ended : before.Ended result)
    (late : ∀ call, before.calls[id]? = some call → LateCall result call)
    (step : Advance before after) :
    ∀ call, after.calls[id]? = some call → LateCall result call :=
  calls_of_halted ended.halted (fun _ => .begins (.inl rfl))
    (fun _ => .dropped rfl) (fun turn held => turn.lateCall ended held) late step

/-- An ended scene along a run: it is not moved, and late calls stay late. -/
theorem Ended.advances (passed : Passed before) (ended : before.Ended result)
    (run : Advances before after) :
    after.Ended result ∧ Unmoved before after
      ∧ ∀ id, before.StillToBegin id →
        ∀ call, after.calls[id]? = some call → LateCall result call := by
  induction run with
  | refl => exact ⟨ended, .refl before, fun id still call found => .begins (still call found)⟩
  | @tail middle after earlier step inductionHypothesis =>
      obtain ⟨still, unmoved, late⟩ := inductionHypothesis
      have steered := (passed.advances earlier).steered
      exact ⟨still.advance steered step, unmoved.trans (still.unmoved step),
        fun id begins => still.late (late id begins) step⟩

/-! ## What the callers are told -/

/-- A call with a record of its answer is finished with it. -/
theorem Story.finished_of_answered {records : List (Happening V)}
    (story : Story session id call records) {answer : Answer V}
    (answered : .answered id answer ∈ records) :
    ∃ millisecond, call.stage = .finished answer millisecond := by
  have ended := (story.answered_last answered).1
  induction story with
  | cancelled lived unfinished inductionHypothesis =>
      have earlier := by simpa using answered
      rw [(lived.answered_last earlier).1] at unfinished
      cases unfinished
  | destroyed lived unfinished =>
      rw [(lived.answered_last answered).1] at unfinished
      cases unfinished
  | processedLate => simp at answered
  | answered =>
      obtain rfl : answer = _ := by simpa using answered
      exact ⟨_, rfl⟩
  | refused =>
      obtain rfl : answer = _ := by simpa using answered
      exact ⟨_, rfl⟩
  | replied =>
      obtain rfl : answer = _ := by simpa [processedStory] using answered
      exact ⟨_, rfl⟩
  | overtakenTold =>
      obtain rfl : answer = _ := by simpa using answered
      exact ⟨_, rfl⟩
  | signalled =>
      obtain rfl : answer = _ := by simpa [registeredStory, processedStory] using answered
      exact ⟨_, rfl⟩
  | expired =>
      obtain rfl : answer = _ := by simpa [registeredStory, processedStory] using answered
      exact ⟨_, rfl⟩
  | desertedTold =>
      obtain rfl : answer = _ := by simpa [registeredStory, processedStory] using answered
      exact ⟨_, rfl⟩
  | _ => cases ended

/-- Whoever the end overtook is told the terminal error. -/
theorem Story.answer_of_overtaken {records : List (Happening V)}
    (story : Story session id call records) {answer : Answer V}
    (overtaken : .overtaken id ∈ records) (answered : .answered id answer ∈ records) :
    ∃ result, session.result? = some result ∧ answer = .failed (terminalError result) := by
  obtain ⟨millisecond, finished⟩ := story.finished_of_answered answered
  cases story with
  | answered => simp at overtaken
  | refused => simp at overtaken
  | replied => simp [processedStory] at overtaken
  | signalled => simp [registeredStory, processedStory] at overtaken
  | expired => simp [registeredStory, processedStory] at overtaken
  | overtakenTold sends late set =>
      cases finished
      exact ⟨_, set, terminalAnswer_of_command sends _⟩
  | desertedTold unsignalled set =>
      cases finished
      exact ⟨_, set, terminalAnswer_of_command rfl _⟩
  | _ => cases finished

/-- A command that entered the mailbox and was not processed is answered when the end
has overtaken it. -/
theorem Story.overtaken_of_unprocessed {records : List (Happening V)}
    (story : Story session id call records) {command : Command V} {answer : Answer V}
    (entered : .entered { caller := id, command } ∈ records)
    (unprocessed : ∀ response, .processed { caller := id, command, response } ∉ records)
    (answered : .answered id answer ∈ records) : .overtaken id ∈ records := by
  obtain ⟨millisecond, finished⟩ := story.finished_of_answered answered
  have sends := story.sends_of_entered entered
  cases story with
  | answered => simp at entered
  | refused => simp at entered
  | @replied request signal own response =>
      obtain rfl : command = own := by simpa [processedStory] using entered
      exact absurd (by simp [processedStory]) (unprocessed response)
  | overtakenTold => simp
  | @signalled topic limit reply =>
      cases sends
      exact absurd (by simp [registeredStory, processedStory]) (unprocessed (.ok reply))
  | @expired topic limit reply =>
      cases sends
      exact absurd (by simp [registeredStory, processedStory]) (unprocessed (.ok reply))
  | desertedTold => simp
  | _ => cases finished

/-- A registered waiter is signalled, or gives up in time, or the end overtakes it. -/
theorem Story.fate_of_waiter {records : List (Happening V)}
    (story : Story session id call records) {topic : String} {limit : Span}
    (waits : call.request = .waitSignal topic limit) {reply : Reply V} {answer : Answer V}
    (registered : .replied id (.ok reply) ∈ records) (answered : .answered id answer ∈ records) :
    answer = .done ∧ call.signal = .raised ∨ answer = .failed (.waitedTooLong topic)
      ∨ .overtaken id ∈ records := by
  obtain ⟨millisecond, finished⟩ := story.finished_of_answered answered
  cases story with
  | answered => simp at registered
  | refused => simp at registered
  | replied sends final => exact absurd waits (final topic limit)
  | overtakenTold => simp at registered
  | signalled =>
      cases finished
      exact .inl ⟨rfl, rfl⟩
  | expired =>
      cases finished
      cases waits
      exact .inr (.inl rfl)
  | desertedTold => exact .inr (.inr (by simp))
  | _ => cases finished

/-- A call that asked for the terminal result is answered with it. -/
theorem CallTurn.terminal {log : List (Happening V)} {changes : List (CallChange V)}
    {mailbox : Mailbox (Envelope V)} (turn : CallTurn before id call log changes mailbox)
    {records : List (Happening V)} (story : Story before id call records)
    (plain : call.request = .stop ∨ call.request = .wait) {answer : Answer V}
    (answered : .answered id answer ∈ log) :
    ∃ result, before.result? = some result ∧ answer = terminalAnswer call.request result := by
  have told {tail : List (Happening V)} {stage : Stage V}
      (turn : ResultTurn before.control id call.request tail stage)
      (member : .answered id answer ∈ tail) :
      ∃ result, before.result? = some result ∧ answer = terminalAnswer call.request result := by
    cases turn with
    | waits unset => cases member
    | told set =>
        obtain rfl : answer = _ := by simpa using member
        exact ⟨_, set, rfl⟩
  have silent : call.request.command? = none := by
    rcases plain with stop | wait
    · rw [stop]
      rfl
    · rw [wait]
      rfl
  cases turn with
  | rests resting => cases answered
  | strays stray => cases answered
  | stops fresh asks turn => exact told turn (by simpa using answered)
  | waits fresh asks turn => exact told turn (by simpa using answered)
  | aborts fresh asks =>
      rw [asks] at plain
      rcases plain with stop | wait
      · cases stop
      · cases wait
  | looks fresh asks =>
      rw [asks] at plain
      rcases plain with stop | wait
      · cases stop
      · cases wait
  | submits opens sends turn => cases silent.symm.trans sends
  | replied waiting filled turn =>
      obtain ⟨command, sends, -⟩ := story.of_awaitingReply waiting
      cases silent.symm.trans sends
  | overtaken waiting lapsed turn => exact told turn (by simpa using answered)
  | listens waiting asks turn =>
      rw [asks] at silent
      cases silent
  | asks waiting turn => exact told turn answered

/-- The calls that asked for the terminal result and were answered so far were answered
with the one result. -/
def AnswersAgree (session : Session V) : Prop :=
  ∀ id call answer, session.calls[id]? = some call →
    call.request = .stop ∨ call.request = .wait → .answered id answer ∈ session.happenings →
      ∃ result, session.result? = some result ∧ answer = terminalAnswer call.request result

/-- A call that has not been made has not been answered. -/
theorem Chronicle.unanswered (chronicle : session.Chronicle) (missing : session.calls[id]? = none)
    (answer : Answer V) : .answered id answer ∉ session.happenings := by
  intro recorded
  have listed := (mem_recordsOf rfl).mpr recorded
  rw [chronicle.unborn id missing] at listed
  cases listed

/-- What was answered before a step agrees after it, and so does what the step answers. -/
theorem AnswersAgree.append (agree : before.AnswersAgree) (chronicle : before.Chronicle)
    (later : Later before after) {log : List (Happening V)}
    (happenings : after.happenings = before.happenings ++ log) {answer : Answer V}
    (asked : before.calls[id]? = none
      ∨ ∃ old, before.calls[id]? = some old ∧ old.request = call.request)
    (plain : call.request = .stop ∨ call.request = .wait)
    (new : .answered id answer ∈ log → ∃ result, before.result? = some result
      ∧ answer = terminalAnswer call.request result)
    (answered : .answered id answer ∈ after.happenings) :
    ∃ result, after.result? = some result ∧ answer = terminalAnswer call.request result := by
  rw [happenings, List.mem_append] at answered
  have told : ∃ result, before.result? = some result
      ∧ answer = terminalAnswer call.request result := by
    rcases answered with early | late
    · rcases asked with missing | ⟨old, found, same⟩
      · exact absurd early (chronicle.unanswered missing answer)
      · rw [← same] at plain ⊢
        exact agree id old answer found plain early
    · exact new late
  obtain ⟨result, set, same⟩ := told
  exact ⟨result, later.result _ set, same⟩

/-- A step that answers nobody and makes no call. -/
theorem AnswersAgree.quiet (agree : before.AnswersAgree) (chronicle : before.Chronicle)
    (later : Later before after) {log : List (Happening V)} {changes : List (CallChange V)}
    {events : List Event} {earlier : Session V}
    (growth : Evolves log changes events earlier after)
    (records : earlier.happenings = before.happenings) (calls : earlier.calls = before.calls)
    (unanswered : ∀ id answer, .answered id answer ∉ log) : after.AnswersAgree := by
  intro id call answer found plain answered
  rw [growth.calls, calls, Option.map_eq_some_iff] at found
  obtain ⟨old, present, rfl⟩ := found
  exact agree.append chronicle later (records ▸ growth.happenings)
    (.inr ⟨old, present, (Call.applyAll_request changes old).symm⟩) plain
    (fun new => absurd new (unanswered id answer)) answered

theorem AnswersAgree.make (agree : before.AnswersAgree) (chronicle : before.Chronicle)
    (request : Request V) (later : Later before (before.makeCall request)) :
    (before.makeCall request).AnswersAgree := by
  have growth := before.makeCall_evolves request
  intro id call answer found plain answered
  rw [growth.calls, Option.map_eq_some_iff] at found
  obtain ⟨old, present, rfl⟩ := found
  refine agree.append chronicle later growth.happenings ?_ plain (fun new => by cases new) answered
  replace present : (before.calls ++ [({ request } : Call V)])[id]? = some old := present
  rw [List.getElem?_append] at present
  split at present
  · exact .inr ⟨old, present, rfl⟩
  case isFalse beyond => exact .inl (List.getElem?_eq_none (Nat.not_lt.mp beyond))

theorem AnswersAgree.turn (agree : before.AnswersAgree) (chronicle : before.Chronicle)
    {turned : Nat} {turning : Call V} (present : before.calls[turned]? = some turning)
    (later : Later before (before.resumeCall turned)) :
    (before.resumeCall turned).AnswersAgree := by
  obtain ⟨log, changes, mailbox, turn, growth, -⟩ := before.resumeCall_turnsBy _ _ present
  intro id call answer found plain answered
  rw [growth.calls, Option.map_eq_some_iff] at found
  obtain ⟨old, earlier, rfl⟩ := found
  refine agree.append chronicle later growth.happenings
    (.inr ⟨old, earlier, (Call.applyAll_request changes old).symm⟩) plain (fun new => ?_) answered
  obtain rfl : id = turned := turn.isByCall _ new
  obtain rfl : turning = old := Option.some.inj (present.symm.trans earlier)
  rw [Call.applyAll_request] at plain ⊢
  exact turn.terminal (chronicle.stories _ _ earlier) plain new

theorem AnswersAgree.lose (agree : before.AnswersAgree) (chronicle : before.Chronicle)
    (later : Later before before.dropTasks) : before.dropTasks.AnswersAgree := by
  intro id call answer found plain answered
  obtain ⟨old, present, rfl⟩ := origin_of_dropTasks found
  refine agree.append chronicle later (List.append_nil _).symm (.inr ⟨old, present, ?_⟩) plain
    (fun new => by cases new) answered
  split <;> rfl

theorem AnswersAgree.advance (agree : before.AnswersAgree) (passed : Passed before)
    (step : Advance before after) : after.AnswersAgree := by
  have later := step.later passed.steered
  have chronicle := passed.chronicle
  cases step with
  | drifts growth => exact agree.quiet chronicle later growth rfl rfl (by simp)
  | makes request => exact agree.make chronicle request later
  | turns present => exact agree.turn chronicle present later
  | cancels found unfinished =>
      exact agree.quiet chronicle later (before.cancel_evolves found unfinished).1 rfl rfl (by simp)
  | opens fresh => exact agree.quiet chronicle later before.openUp_evolves rfl rfl (by simp)
  | @processes envelope rest serving unstopped undue taken =>
      obtain ⟨backend, -, growth⟩ := serveOne_evolves serving envelope rest
      refine agree.quiet chronicle later growth rfl rfl fun id answer member => ?_
      rcases List.mem_append.mp member with cleaned | processed
      · cases isByCleanup_of_mem_effect_log cleaned
      · cases List.mem_singleton.mp processed
  | @ends log heralds error _ serving cause =>
      refine agree.quiet chronicle later cause.evolves rfl rfl fun id answer member => ?_
      rw [endLog, List.mem_append, List.mem_append] at member
      rcases member with (herald | torn) | last
      · cases cause <;> simp at herald
      · cases isByCleanup_of_mem_teardownLog torn
      · cases List.mem_singleton.mp last
  | loses => exact agree.lose chronicle later

theorem Passed.answersAgree (passed : Passed session) : session.AnswersAgree := by
  induction passed with
  | initial initial =>
      intro id call answer found
      simp [initial.calls] at found
  | advance passed step inductionHypothesis => exact inductionHypothesis.advance passed step

/-! ## The main statement -/

/-- Whoever is told of the end of a scene, at whatever moment, is told its one terminal
result: those that asked for it; those whose command was in the mailbox; and the
registered waiters that were neither signalled nor gave up in time. -/
structure Unanimous (session : Session V) : Prop where
  asked : ∀ id call answer, session.calls[id]? = some call →
    call.request = .stop ∨ call.request = .wait → .answered id answer ∈ session.happenings →
      ∃ result, session.result? = some result ∧ answer = terminalAnswer call.request result
  overtaken : ∀ id answer, .overtaken id ∈ session.happenings →
    .answered id answer ∈ session.happenings →
      ∃ result, session.result? = some result ∧ answer = .failed (terminalError result)
  enqueued : ∀ id command answer, .entered { caller := id, command } ∈ session.happenings →
    (∀ response, .processed { caller := id, command, response } ∉ session.happenings) →
      .answered id answer ∈ session.happenings → .overtaken id ∈ session.happenings
  registered : ∀ id call topic limit reply answer, session.calls[id]? = some call →
    call.request = .waitSignal topic limit → .replied id (.ok reply) ∈ session.happenings →
      .answered id answer ∈ session.happenings →
        answer = .done ∧ call.signal = .raised ∨ answer = .failed (.waitedTooLong topic)
          ∨ .overtaken id ∈ session.happenings

theorem Reachable.unanimous (reachable : Reachable session) : session.Unanimous := by
  have chronicle := reachable.passed.chronicle
  constructor
  case asked => exact reachable.passed.answersAgree
  case overtaken =>
    intro id answer overtaken answered
    have listed : .overtaken id ∈ session.recordsOf id := (mem_recordsOf rfl).mpr overtaken
    obtain ⟨call, -, story⟩ := chronicle.story_of_mem listed
    exact story.answer_of_overtaken listed ((mem_recordsOf rfl).mpr answered)
  case enqueued =>
    intro id command answer entered unprocessed answered
    have listed : .entered { caller := id, command } ∈ session.recordsOf id :=
      (mem_recordsOf rfl).mpr entered
    obtain ⟨call, -, story⟩ := chronicle.story_of_mem listed
    refine (mem_recordsOf rfl).mp (story.overtaken_of_unprocessed listed
      (fun response processed => unprocessed response ((mem_recordsOf rfl).mp processed))
      ((mem_recordsOf rfl).mpr answered))
  case registered =>
    intro id call topic limit reply answer found waits registered answered
    have fate := (chronicle.stories id call found).fate_of_waiter waits
      ((mem_recordsOf rfl).mpr registered) ((mem_recordsOf rfl).mpr answered)
    exact fate.imp_right (Or.imp_right (mem_recordsOf rfl).mp)

/-- What is left of a scene after its end with a given result: nothing moves but calls,
and those that had not begun their work fail, or get the answer that everybody gets. -/
structure Absorbed (session later : Session V) (result : Except SceneError Unit) : Prop where
  outcome : later.control.outcome = some result
  phase : later.phase = .ended
  unmoved : Unmoved session later
  late : ∀ id, session.StillToBegin id → ∀ call, later.calls[id]? = some call →
    LateCall result call
  served : ∀ id, session.StillToBegin id → later.AtRest →
    ∀ call, later.calls[id]? = some call → call.stage = .dropped
      ∨ ∃ millisecond, call.stage = .finished (answerAfterEnd result call.request) millisecond

/-- At rest every late call has been answered or given up. -/
theorem LateCall.served (late : LateCall result call) (ended : session.Ended result)
    (attentive : session.Attentive none) (rest : session.AtRest)
    (found : session.calls[id]? = some call) :
    call.stage = .dropped
      ∨ ∃ millisecond, call.stage = .finished (answerAfterEnd result call.request) millisecond := by
  have stuck : ¬session.CanGoOn id call := fun can =>
    rest.2 id (attentive.calls id call found can (by simp))
  cases late with
  | begins stage =>
      rcases stage with fresh | seeks
      · exact absurd (.starts fresh) stuck
      · exact absurd (.enters seeks (.inl ended.ending)) stuck
  | dropped stage => exact .inl stage
  | answered stage => exact .inr ⟨_, stage⟩

theorem Passed.result_advances (passed : Passed before) (run : Advances before after)
    (set : before.result? = some result) : after.result? = some result := by
  induction run with
  | refl => exact set
  | tail earlier step inductionHypothesis =>
      exact (step.later (passed.advances earlier).steered).result _ inductionHypothesis

/-- A scene with a stored result, after any further moves. -/
theorem Reachable.absorbed (reachable : Reachable session)
    (set : session.control.outcome = some result) (schedule : List (Move V)) :
    Absorbed session (session.moves schedule) result := by
  obtain ⟨ended, unmoved, late⟩ := Ended.advances reachable.passed (reachable.passed.ended set)
    (session.moves_advances schedule)
  have attentive := (reachable.moves schedule).attentive
  exact {
    outcome := ended.outcome
    phase := ended.phase
    unmoved
    late
    served := fun id begins rest call found =>
      (late id begins call found).served ended attentive rest found }

/-- All results that callers are ever told agree.  Once the terminal result is stored,
whatever is done to the scene, the result and the last phase stay, no command is
processed, no cleanup is run, and no event of the scene is published; and a call that had
not begun its work fails as it should. -/
theorem ended_is_absorbing (reachable : Reachable session) :
    session.Unanimous
      ∧ ∀ schedule : List (Move V),
        (∀ result, session.result? = some result →
          (session.moves schedule).result? = some result)
        ∧ ∀ result, session.control.outcome = some result →
          Absorbed session (session.moves schedule) result := by
  refine ⟨reachable.unanimous, fun schedule => ⟨fun result set => ?_, fun result set => ?_⟩⟩
  · exact reachable.passed.result_advances (session.moves_advances schedule) set
  · exact reachable.absorbed set schedule

/-- A stop ends a scene that holds a prop with a cleanup. -/
def stopWithProp : List (Move Nat) :=
  [.act (.call (.store "n" 1 (some {}))), .resume (.call 0), .resume .backend,
    .act (.call .stop), .resume (.call 1), .resume .backend, .resume (.call 1)]

/-- Calls of every kind come after the end, and time passes. -/
def callsAfterEnd : List (Move Nat) :=
  [.act (.call (.abort (.foreign "late"))), .act (.call (.fetch "n")), .act (.call .wait),
    .resume (.call 2), .resume (.call 3), .resume (.call 4), .resume .backend, .act .clone,
    .reach 5000000, .act .dropTasks]

theorem ended_is_absorbing_callsAfterEnd :
    (plain.moves stopWithProp).control.outcome = some (.ok ())
      ∧ Absorbed (plain.moves stopWithProp) ((plain.moves stopWithProp).moves callsAfterEnd)
        (.ok ()) := by
  have set : (plain.moves stopWithProp).control.outcome = some (.ok ()) := rfl
  have absorbing := ended_is_absorbing (reachable_plain.moves stopWithProp)
  exact ⟨set, (absorbing.2 callsAfterEnd).2 _ set⟩

end Session

end BoundedScene
