import BoundedScene.Proofs.Absorption

/-!
Contract: what is left of a scene whose tasks were destroyed before it ended.

Owns:
- `Forsaken`, a scene whose backend was lost before a result was stored;
- `OrphanCall`, all that becomes of a call that is made after the loss;
- `LeftBehind`, what the surviving handles are told.

An abort may still be recorded after the loss: it reaches nobody, since the result that
everybody obtains comes from the loss and not from the control surface.

Main statement: `loss_is_told_to_everybody`.

Does not own: a scene whose result was stored before its tasks were destroyed.
-/

namespace BoundedScene

open BoundedScene.Supervision (Control)

namespace Session

variable {V : Type} {session before after : Session V} {id : Nat} {call : Call V}

/-! ## The forsaken scene -/

/-- The error with which a scene reports that its backend was lost. -/
def lossError : SceneError :=
  .backendLost Abandonment.dropped.reason

/-- A scene whose backend was lost before a result was stored. -/
structure Forsaken (session : Session V) : Prop where
  backend : session.backend = .lost
  lost : session.control.lost = true
  outcome : session.control.outcome = none
  closed : session.mailbox.closed = true

theorem Passed.forsaken (passed : Passed session) (lost : session.backend = .lost) :
    session.Forsaken where
  backend := lost
  lost := (passed.steered.lost lost).1
  outcome := (passed.steered.lost lost).2
  closed := (passed.chronicle.stopped (by simp [backendRuns, lost])).1

theorem Forsaken.halted (forsaken : session.Forsaken) : session.backendRuns = false := by
  simp [backendRuns, forsaken.backend]

theorem Forsaken.settled (forsaken : session.Forsaken) :
    settled? session.control = some (.error lossError) := by
  simp [settled?, Control.result?, forsaken.outcome, forsaken.lost, lossError,
    SceneError.ofAbandonment]

/-- Destroying the tasks of a scene without a result loses its backend. -/
theorem Passed.forsaken_dropTasks (passed : Passed session)
    (unset : session.control.outcome = none) : session.dropTasks.Forsaken := by
  refine (passed.advance .loses).forsaken ?_
  cases runs : session.backendRuns with
  | true => simp [dropTasks, runs]
  | false =>
      rcases halted_cases runs with returned | lost
      · have set := (passed.steered.returned returned).1
        rw [unset] at set
        cases set
      · simp [dropTasks, runs, lost]

/-! ## Calls after the loss -/

/-- The answer to a call that is made after the backend was lost in a given phase. -/
def answerAfterLoss (phase : Phase) : Request V → Answer V
  | .stop => .failed lossError
  | .wait => .failed lossError
  | .abort _ => .done
  | .phase => .phase phase
  | _ => .failed .ended

/-- All that becomes of a call that is made after the loss. -/
inductive OrphanCall (phase : Phase) (call : Call V) : Prop where
  | begins (stage : call.stage = .fresh) : OrphanCall phase call
  | dropped (stage : call.stage = .dropped) : OrphanCall phase call
  | answered {millisecond : Nat}
      (stage : call.stage = .finished (answerAfterLoss phase call.request) millisecond) :
      OrphanCall phase call

theorem answerAfterLoss_of_command {request : Request V} {command : Command V}
    (sends : request.command? = some command) (phase : Phase) :
    answerAfterLoss phase request = .failed .ended := by
  cases request <;> first | rfl | cases sends

theorem ResultTurn.told_of_loss {request : Request V} {log : List (Happening V)}
    {stage : Stage V} (turn : ResultTurn session.control id request log stage)
    (forsaken : session.Forsaken) :
    ∃ millisecond, stage = .finished (.failed lossError) millisecond := by
  cases turn with
  | waits unset =>
      rw [forsaken.settled] at unset
      cases unset
  | told told =>
      obtain rfl := Option.some.inj (forsaken.settled.symm.trans told)
      exact ⟨_, rfl⟩

section Turn

variable {log : List (Happening V)} {changes : List (CallChange V)}
  {mailbox : Mailbox (Envelope V)}

/-- The first turn of a call after the loss is its last. -/
theorem CallTurn.answers_orphan (turn : CallTurn before id call log changes mailbox)
    (forsaken : before.Forsaken) (fresh : call.stage = .fresh) :
    ∃ millisecond, Call.applyAll id changes call
      = { call with stage := .finished (answerAfterLoss before.phase call.request) millisecond } := by
  cases turn with
  | rests resting => simp [Call.isUnfinished, Call.awaitsReply, fresh] at resting
  | strays stray => simp [fresh] at stray
  | stops now asks turn =>
      obtain ⟨millisecond, rfl⟩ := turn.told_of_loss forsaken
      exact ⟨millisecond, by rw [Call.applyAll_staged, asks]; rfl⟩
  | waits now asks turn =>
      obtain ⟨millisecond, rfl⟩ := turn.told_of_loss forsaken
      exact ⟨millisecond, by rw [Call.applyAll_staged, asks]; rfl⟩
  | @aborts cause millisecond now asks =>
      exact ⟨millisecond, by rw [Call.applyAll_staged, asks]; rfl⟩
  | @looks millisecond now asks =>
      exact ⟨millisecond, by rw [Call.applyAll_staged, asks]; rfl⟩
  | submits opens sends turn =>
      cases turn with
      | @refused millisecond barred =>
          exact ⟨millisecond, by rw [Call.applyAll_staged, answerAfterLoss_of_command sends]⟩
      | enters ongoing unclosed =>
          rw [forsaken.closed] at unclosed
          cases unclosed
      | linesUp ongoing unclosed =>
          rw [forsaken.closed] at unclosed
          cases unclosed
  | replied waiting => cases fresh.symm.trans waiting
  | overtaken waiting => cases fresh.symm.trans waiting
  | listens waiting => cases fresh.symm.trans waiting
  | asks waiting => cases fresh.symm.trans waiting

theorem CallTurn.unchanged_of_finished (turn : CallTurn before id call log changes mailbox)
    (finished : call.isUnfinished = false) : Call.applyAll id changes call = call := by
  cases turn with
  | rests | strays => rfl
  | @submits opening log stage command mailbox opens sends turn =>
      rcases opens.early.1 with fresh | seeks <;> simp_all [Call.isUnfinished]
  | _ => simp_all [Call.isUnfinished]

theorem CallTurn.orphan (turn : CallTurn before id call log changes mailbox)
    (forsaken : before.Forsaken) (orphan : OrphanCall before.phase call) :
    OrphanCall before.phase (Call.applyAll id changes call) := by
  cases orphan with
  | begins fresh =>
      obtain ⟨millisecond, answered⟩ := turn.answers_orphan forsaken fresh
      rw [answered]
      exact .answered rfl
  | dropped stage =>
      rw [turn.unchanged_of_finished (by simp [Call.isUnfinished, stage])]
      exact .dropped stage
  | answered stage =>
      rw [turn.unchanged_of_finished (by simp [Call.isUnfinished, stage])]
      exact .answered stage

end Turn

/-- A call made after the loss gets no further than its answer, whatever happens. -/
theorem Forsaken.orphan (forsaken : before.Forsaken)
    (orphan : ∀ call, before.calls[id]? = some call → OrphanCall before.phase call)
    (step : Advance before after) :
    ∀ call, after.calls[id]? = some call → OrphanCall before.phase call :=
  calls_of_halted forsaken.halted (fun _ => .begins rfl) (fun _ => .dropped rfl)
    (fun turn held => turn.orphan forsaken held) orphan step

/-- A forsaken scene along a run. -/
theorem Forsaken.advances (forsaken : before.Forsaken) (passed : Passed before)
    (run : Advances before after) : after.Forsaken ∧ Silenced before after := by
  induction run with
  | refl => exact ⟨forsaken, .refl before⟩
  | tail earlier step inductionHypothesis =>
      obtain ⟨still, silenced⟩ := inductionHypothesis
      have onward := silenced.trans (silenced_of_halted still.halted step)
      have arrived := (passed.advances earlier).advance step
      exact ⟨arrived.forsaken (onward.backend.trans forsaken.backend), onward⟩

/-- A call made after the loss, along a run. -/
theorem Forsaken.orphans (forsaken : before.Forsaken) (passed : Passed before)
    (run : Advances before after) (unmade : before.calls[id]? = none) :
    ∀ call, after.calls[id]? = some call → OrphanCall before.phase call := by
  induction run with
  | refl =>
      intro call found
      rw [unmade] at found
      cases found
  | tail earlier step inductionHypothesis =>
      obtain ⟨still, silenced⟩ := forsaken.advances passed earlier
      rw [← silenced.phase] at inductionHypothesis ⊢
      exact still.orphan inductionHypothesis step

/-- Where every unfinished call is a new one, that stays so: the first turn of a call
finishes it. -/
theorem Forsaken.brief (forsaken : before.Forsaken) (passed : Passed before)
    (run : Advances before after)
    (brief : ∀ call, before.calls[id]? = some call → call.isUnfinished = true →
      call.stage = .fresh) :
    ∀ call, after.calls[id]? = some call → call.isUnfinished = true → call.stage = .fresh := by
  induction run with
  | refl => exact brief
  | tail earlier step inductionHypothesis =>
      have still := (forsaken.advances passed earlier).1
      refine calls_of_halted still.halted (fun _ _ => rfl) (fun call unfinished => ?_)
        (fun {call log changes mailbox} turn held unfinished => ?_) inductionHypothesis step
      · cases unfinished
      · cases already : call.isUnfinished with
        | true =>
            obtain ⟨millisecond, answered⟩ := turn.answers_orphan still (held already)
            rw [answered] at unfinished
            cases unfinished
        | false =>
            rw [turn.unchanged_of_finished already, already] at unfinished
            cases unfinished

/-! ## The main statement -/

/-- What the surviving handles find when the tasks of a scene were destroyed before its
result was stored.

- `outcome`, `result`: no result is stored any more, and everybody obtains the loss;
- `phase`, `ledger`, `cleanups`, `events`: nothing is left of the backend;
- `answers`: how the calls made after the loss are answered;
- `prompt`: whoever has no answer yet is ready, and is answered in its next turn;
- `served`: once every task waits, nobody is without an answer. -/
structure LeftBehind (session later : Session V) : Prop where
  outcome : later.control.outcome = none
  result : later.result? = some (.error lossError)
  phase : later.phase = session.phase
  ledger : later.ledger = session.ledger
  cleanups : later.cleanups = session.cleanups
  events : later.backendEvents = session.backendEvents
  answers : ∀ (id : Nat) (call : Call V) answer millisecond, session.calls.length ≤ id →
    later.calls[id]? = some call → call.stage = .finished answer millisecond →
      answer = answerAfterLoss session.phase call.request
  prompt : ∀ (id : Nat) (call : Call V), later.calls[id]? = some call → call.isUnfinished = true →
    .call id ∈ later.agenda.ready
      ∧ ∃ millisecond, (later.move (.resume (.call id))).calls[id]?
        = some { call with
            stage := .finished (answerAfterLoss session.phase call.request) millisecond }
  served : later.AtRest → ∀ (id : Nat) (call : Call V), later.calls[id]? = some call →
    call.isUnfinished = false

/-- The turn of a new call of a forsaken scene. -/
theorem Forsaken.turn (forsaken : session.Forsaken) (found : session.calls[id]? = some call)
    (fresh : call.stage = .fresh) :
    ∃ millisecond, (session.move (.resume (.call id))).calls[id]? = some { call with
      stage := .finished (answerAfterLoss session.phase call.request) millisecond } := by
  let dequeued := session.dequeue (.call id)
  have still : dequeued.Forsaken :=
    ⟨forsaken.backend, forsaken.lost, forsaken.outcome, forsaken.closed⟩
  obtain ⟨log, changes, mailbox, turn, growth, -⟩ := dequeued.resumeCall_turnsBy id call found
  obtain ⟨millisecond, answered⟩ := turn.answers_orphan still fresh
  have calls := growth.calls id
  rw [show ({ dequeued with mailbox } : Session V).calls[id]? = some call from found,
    Option.map_some, answered] at calls
  exact ⟨millisecond, calls⟩

/-- A scene whose tasks are destroyed while it has no result, after any further moves. -/
theorem Reachable.leftBehind (reachable : Reachable session)
    (unset : session.control.outcome = none) (schedule : List (Move V)) :
    LeftBehind session (session.dropTasks.moves schedule) := by
  have passed := reachable.passed
  have forsaken := passed.forsaken_dropTasks unset
  have lost : Passed session.dropTasks := passed.advance .loses
  have run := session.dropTasks.moves_advances schedule
  have later : Reachable (session.dropTasks.moves schedule) :=
    (reachable.moved (.act .dropTasks)).moves schedule
  obtain ⟨still, silenced⟩ := forsaken.advances lost run
  have brief (id : Nat) (call : Call V)
      (found : (session.dropTasks.moves schedule).calls[id]? = some call)
      (unfinished : call.isUnfinished = true) : call.stage = .fresh := by
    refine forsaken.brief lost run (fun call found unfinished => ?_) call found unfinished
    rw [isUnfinished_dropTasks found] at unfinished
    cases unfinished
  generalize session.dropTasks.moves schedule = after at run later still silenced brief ⊢
  constructor
  case outcome => exact still.outcome
  case result => exact still.settled
  case phase => exact silenced.phase
  case ledger => exact silenced.ledger
  case cleanups => exact silenced.cleanups
  case events => exact silenced.events
  case answers =>
    intro id call answer millisecond made found finished
    have unmade : session.dropTasks.calls[id]? = none := by
      rw [List.getElem?_eq_none_iff]
      simpa [dropTasks] using made
    cases forsaken.orphans lost run unmade call found with
    | begins fresh => cases fresh.symm.trans finished
    | dropped dropped => cases dropped.symm.trans finished
    | answered answered =>
        cases answered.symm.trans finished
        rfl
  case prompt =>
    intro id call found unfinished
    have fresh := brief id call found unfinished
    have ready := later.attentive.calls id call found (.starts fresh) (by simp)
    have turn := still.turn found fresh
    rw [silenced.phase] at turn
    exact ⟨ready, turn⟩
  case served =>
    intro rest id call found
    cases unfinished : call.isUnfinished with
    | false => rfl
    | true =>
        have fresh := brief id call found unfinished
        have ready := later.attentive.calls id call found (.starts fresh) (by simp)
        exact absurd ready (rest.2 id)

/-- However a scene loses its tasks, the surviving handles are told the same.  Without a
stored result, commands are refused, whoever asks for the result is told that the backend
was lost, and the backend leaves no further trace, whatever is aborted before or after.
With a stored result, everybody is told that result as before. -/
theorem loss_is_told_to_everybody (reachable : Reachable session) (schedule : List (Move V)) :
    (session.control.outcome = none → LeftBehind session (session.dropTasks.moves schedule))
      ∧ ∀ result, session.control.outcome = some result →
        Absorbed session (session.dropTasks.moves schedule) result := by
  constructor
  · intro unset
    exact reachable.leftBehind unset schedule
  · intro result set
    exact reachable.absorbed set (.act .dropTasks :: schedule)

/-- A prop is stored and an abort is asked for; the backend has not noticed it yet. -/
def abortUnnoticed : List (Move Nat) :=
  [.act (.call (.store "n" 1 (some {}))), .resume (.call 0), .resume .backend,
    .act (.call (.abort (.foreign "enough"))), .resume (.call 1)]

/-- Calls on the surviving handles, with another abort among them. -/
def callsAfterLoss : List (Move Nat) :=
  [.act (.call (.fetch "n")), .act (.call .wait), .act (.call (.abort (.foreign "again"))),
    .resume (.call 2), .resume (.call 3), .resume (.call 4), .act (.call .stop),
    .resume (.call 5), .resume .backend]

theorem loss_is_told_to_everybody_callsAfterLoss :
    LeftBehind (plain.moves abortUnnoticed)
        ((plain.moves abortUnnoticed).dropTasks.moves callsAfterLoss)
      ∧ Absorbed (plain.moves stopWithProp)
        ((plain.moves stopWithProp).dropTasks.moves callsAfterLoss) (.ok ()) := by
  have unset : (plain.moves abortUnnoticed).control.outcome = none := rfl
  have set : (plain.moves stopWithProp).control.outcome = some (.ok ()) := rfl
  have lost := loss_is_told_to_everybody (reachable_plain.moves abortUnnoticed) callsAfterLoss
  have kept := loss_is_told_to_everybody (reachable_plain.moves stopWithProp) callsAfterLoss
  exact ⟨lost.1 unset, kept.2 _ set⟩

end Session

end BoundedScene
