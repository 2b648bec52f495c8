import BoundedScene.Proofs.Supervision.Attention
import BoundedScene.Proofs.Supervision.Course
import BoundedScene.Proofs.Supervision.Rest

/-!
Contract: the result of a supervised loop.

Owns:
- which kill is accepted;
- the stored result, which stays what it is;
- that every call that asks for the result obtains it.

Main statement: `everyone_obtains_the_result`.

A schedule hands the turn to any task, ready or not, so it covers every interleaving of the
loop with the calls on its handles.

Does not own: a loop whose task is destroyed before it returned.
-/

namespace BoundedScene.Supervision.Session

variable {Mark : Type} {script : List (LoopAction Mark)} {session : Session Mark}

/-! ## Kills -/

theorem call_setStage {id : Nat} {call : Call} (found : session.calls[id]? = some call)
    (stage : Stage) : (session.setStage id stage).calls[id]? = some { call with stage } := by
  unfold setStage
  rw [List.getElem?_modify_eq, found]
  rfl

/-- The turn of a kill says whether its error was recorded. -/
theorem kill_answer {id : Nat} {message : String}
    (found : session.calls[id]? = some ⟨.kill message, .fresh⟩) :
    ∃ millisecond, (session.move (.resume (.call id))).calls[id]?
      = some ⟨.kill message, .finished (.recorded session.control.acceptsKill) millisecond⟩ := by
  let dequeued := session.dequeue (.call id)
  have present : dequeued.calls[id]? = some ⟨.kill message, .fresh⟩ := found
  have answered : session.move (.resume (.call id))
      = (dequeued.struck message).answer id (.recorded session.control.acceptsKill) := by
    show dequeued.resumeCall id = _
    unfold resumeCall
    rw [present]
    rfl
  rw [answered]
  exact ⟨_, call_setStage
    (show (dequeued.struck message).calls[id]? = some ⟨.kill message, .fresh⟩ from present) _⟩

theorem Course.acceptsKill_iff (course : Course script session)
    {done rest : List (LoopAction Mark)} (progress : Progress script done rest session) :
    session.control.acceptsKill = true ↔ session.acceptedKills = [] ∧ .conclude ∉ done
      ∧ session.control.outcome = none := by
  have kills : session.control.killed = none ↔ session.acceptedKills = [] := by
    have same := course.kills
    cases killed : session.control.killed with
    | none => simpa [killed] using same
    | some error =>
        rw [killed] at same
        simp only [reduceCtorEq, false_iff]
        rintro none
        rw [none] at same
        cases same
  have unannounced : session.control.concluded = false ↔ .conclude ∉ done := by
    rw [← progress.executed.concluded, Bool.not_eq_true]
  simp only [Control.acceptsKill, Control.isFinished, Bool.and_eq_true, Bool.not_eq_true',
    Option.isNone_iff_eq_none, Option.isSome_eq_false_iff, kills, unannounced, and_assoc]

/-! ## The stored result -/

/-- A recorded error is the result; without one, the result is the function's own. -/
theorem Course.result_eq (course : Course script session) {result : Except LoopError Unit}
    (stored : session.control.outcome = some result) :
    (∀ message ∈ session.acceptedKills, result = .error (.failed message))
      ∧ (session.acceptedKills = [] → result = LoopAction.ownResult script) := by
  obtain ⟨done, rest, progress⟩ := course.progress
  rcases progress.position with ⟨alarm, -, unset⟩ | ⟨-, -, resolved⟩
  · cases unset.symm.trans stored
  · have same := course.kills
    have result := Option.some.inj (stored.symm.trans resolved)
    rw [result]
    unfold Control.resolve
    cases killed : session.control.killed with
    | none =>
        have none : session.acceptedKills = [] := by simpa [killed] using same
        rw [none]
        exact ⟨nofun, fun _ => rfl⟩
    | some error =>
        obtain ⟨message, only, rfl⟩ : ∃ message, session.acceptedKills = [message]
            ∧ LoopError.failed message = error := by
          simpa [killed, List.map_eq_singleton_iff] using same
        rw [only]
        exact ⟨fun other member => by rw [List.mem_singleton.mp member], nofun⟩

/-- A loop that stored its result has returned and has no further turn. -/
theorem Course.outcome_resumeLoop (course : Course script session)
    {result : Except LoopError Unit} (stored : session.control.outcome = some result) :
    session.resumeLoop.control.outcome = some result := by
  obtain ⟨done, rest, progress⟩ := course.progress
  rcases progress.position with ⟨alarm, -, unset⟩ | ⟨returned, -⟩
  · cases unset.symm.trans stored
  · unfold Session.resumeLoop
    rw [returned]
    exact stored

/-- What is stored stays, and it is not lost with the task. -/
theorem Course.stays (course : Course script session) (kept : session.control.lost = false)
    {result : Except LoopError Unit} (stored : session.control.outcome = some result)
    (move : Move) : (session.move move).control.outcome = some result
      ∧ (session.move move).control.lost = false := by
  cases move with
  | reach instant => exact ⟨stored, kept⟩
  | act deed =>
      cases deed with
      | dropTasks =>
          have finished : session.control.isFinished = true := by
            simp [Control.isFinished, stored]
          refine ⟨stored, ?_⟩
          show (session.control.lost || !session.control.isFinished) = false
          rw [kept, finished]
          rfl
      | _ => exact ⟨stored, kept⟩
  | resume task =>
      cases task with
      | loop =>
          have dequeued : Course script (session.dequeue .loop) := course.withAgenda _
          exact ⟨dequeued.outcome_resumeLoop stored, (resumeLoop_steady _).lost.trans kept⟩
      | call id =>
          obtain ⟨sameLost, sameOutcome, -⟩ := (session.dequeue (.call id)).resumeCall_steady id
          exact ⟨sameOutcome.trans stored, sameLost.trans kept⟩

theorem Reachable.stays (reachable : Reachable script session)
    (kept : session.control.lost = false) {result : Except LoopError Unit}
    (stored : session.control.outcome = some result) (schedule : List Move) :
    (session.moves schedule).control.outcome = some result := by
  unfold Session.moves
  induction schedule generalizing session with
  | nil => exact stored
  | cons first rest inductionHypothesis =>
      obtain ⟨still, unlost⟩ := (reachable.course kept).stays kept stored first
      exact inductionHypothesis (reachable.moved first) unlost still

/-! ## The calls that ask for it -/

/-- A call that asks for the result has no other answer. -/
theorem Course.answer_eq (course : Course script session) {call : Call}
    (member : call ∈ session.calls) (asks : call.request.asksResult = true) {answer : Answer}
    {millisecond : Nat} (finished : call.stage = .finished answer millisecond) :
    ∃ result, session.control.outcome = some result ∧ answer = .result result := by
  have fits := course.fits call member
  obtain ⟨request, stage⟩ := call
  cases finished
  cases fits with
  | result _ stored => exact ⟨_, stored, rfl⟩
  | _ => cases asks

theorem resultStage_eq {result : Except LoopError Unit}
    (stored : session.control.outcome = some result) :
    session.resultStage = .finished (.result result) session.clock.millisecond := by
  unfold resultStage Control.result?
  rw [stored]

/-- Once there is a result, a call that asks for it obtains it in its next turn. -/
theorem Course.obtains (course : Course script session) {id : Nat} {call : Call}
    (found : session.calls[id]? = some call) (asks : call.request.asksResult = true)
    (unfinished : call.isUnfinished = true) {result : Except LoopError Unit}
    (stored : session.control.outcome = some result) :
    ∃ millisecond, (session.move (.resume (.call id))).calls[id]?
      = some { call with stage := .finished (.result result) millisecond } := by
  let dequeued := session.dequeue (.call id)
  have fits := course.fits call (List.mem_of_getElem? found)
  have present : dequeued.calls[id]? = some call := found
  have turn := resumeCall_turn present
  show ∃ millisecond, (dequeued.resumeCall id).calls[id]? = _
  generalize dequeued.resumeCall id = after at turn
  obtain ⟨request, stage⟩ := call
  cases turn with
  | stops =>
      have stored : dequeued.asked.control.outcome = some result := stored
      rw [resultStage_eq stored]
      exact ⟨_, call_setStage (show dequeued.asked.calls[id]? = _ from present) _⟩
  | waits =>
      rw [resultStage_eq (show dequeued.control.outcome = some result from stored)]
      exact ⟨_, call_setStage present _⟩
  | kills asked =>
      cases asked
      cases asks
  | watches asked =>
      rcases asked with ⟨asked, -⟩ | waiting
      · cases asked
        cases asks
      · cases waiting
        cases fits
        cases asks
  | looks asked =>
      cases asked
      cases asks
  | ceased ceased => cases unfinished.symm.trans ceased

/-- Once there is a result, a call that asks for it is ready. -/
theorem Attentive.asks_ready (attentive : session.Attentive none) (course : Course script session)
    {id : Nat} {call : Call} (found : session.calls[id]? = some call)
    (asks : call.request.asksResult = true) (unfinished : call.isUnfinished = true)
    {result : Except LoopError Unit} (stored : session.control.outcome = some result) :
    .call id ∈ session.agenda.ready := by
  refine (attentive.calls id call found nofun).resolve_right fun idle => ?_
  have fits := course.fits call (List.mem_of_getElem? found)
  obtain ⟨request, stage⟩ := call
  cases fits with
  | fresh => exact idle
  | awaitsResult =>
      have unset : session.control.result? (.abandoned Abandonment.dropped) = none := idle
      rw [Control.result?, stored] at unset
      cases unset
  | awaitsEnding => cases asks
  | _ => cases unfinished

/-! ## The result -/

/-- Whatever a supervised function does, and however the handles are used, as long as its
task is not destroyed:

- the function runs to its own return, and until then it only ever waits for something;
- a kill returns true if and only if none did before, the function did not announce that
  it concludes, and there is no result yet;
- the result is stored when the function returns, and stays: the error of the accepted
  kill, or what the function itself returned;
- every call that waits for the result, with or without a request to stop, obtains it. -/
theorem everyone_obtains_the_result (script : List (LoopAction Mark)) (schedule : List Move)
    (kept : ((start script).moves schedule).control.lost = false) :
    let session := (start script).moves schedule
    (∃ done rest, Progress script done rest session
      ∧ ∀ id message, session.calls[id]? = some ⟨.kill message, .fresh⟩ →
        ∃ accepted millisecond, (session.move (.resume (.call id))).calls[id]?
            = some ⟨.kill message, .finished (.recorded accepted) millisecond⟩
          ∧ (accepted = true ↔ session.acceptedKills = [] ∧ .conclude ∉ done
            ∧ session.control.outcome = none))
    ∧ (∀ result, session.control.outcome = some result →
      (∀ message ∈ session.acceptedKills, result = .error (.failed message))
      ∧ (session.acceptedKills = [] → result = LoopAction.ownResult script)
      ∧ ∀ later, (session.moves later).control.outcome = some result)
    ∧ (∀ id call, session.calls[id]? = some call → call.request.asksResult = true →
      (∀ answer millisecond, call.stage = .finished answer millisecond →
        ∃ result, session.control.outcome = some result ∧ answer = .result result)
      ∧ ∀ result, session.control.outcome = some result → call.isUnfinished = true →
        .call id ∈ session.agenda.ready
          ∧ ∃ millisecond, (session.move (.resume (.call id))).calls[id]?
            = some { call with stage := .finished (.result result) millisecond })
    ∧ (session.agenda.ready = [] → ∀ remaining alarm, session.loop = .running remaining alarm →
      session.Waits remaining alarm)
    ∧ (Turns.settle session).agenda.ready = [] := by
  intro session
  have reachable : Reachable script session := Reachable.started.moves schedule
  have course := reachable.course kept
  have attentive := reachable.attentive
  refine ⟨?_, fun result stored => ?_, fun id call found asks => ⟨?_, ?_⟩, ?_,
    reachable.settle_rests⟩
  · obtain ⟨done, rest, progress⟩ := course.progress
    refine ⟨done, rest, progress, fun id message found => ?_⟩
    obtain ⟨millisecond, answered⟩ := kill_answer found
    exact ⟨_, millisecond, answered, course.acceptsKill_iff progress⟩
  · obtain ⟨recorded, own⟩ := course.result_eq stored
    exact ⟨recorded, own, reachable.stays kept stored⟩
  · intro answer millisecond finished
    exact course.answer_eq (List.mem_of_getElem? found) asks finished
  · intro result stored unfinished
    exact ⟨attentive.asks_ready course found asks unfinished stored,
      course.obtains found asks unfinished stored⟩
  · intro rests remaining alarm running
    refine (attentive.loop remaining alarm running nofun).resolve_left fun ready => ?_
    rw [rests] at ready
    cases ready

/-- A function that waits for a stop, announces that it concludes, and panics. -/
def panickingScript : List (LoopAction Nat) :=
  [.mark 1, .stopped, .conclude, .gate, .panic (.fixed "torn")]

/-- A kill comes while the function waits for a stop, another one after its panic; a call
waits from the beginning. -/
def twoKills : List Move :=
  [.act (.call .wait), .resume (.call 0), .resume .loop, .act (.call (.kill "first")),
    .resume (.call 1), .resume .loop, .act (.permit 1), .resume .loop,
    .act (.call (.kill "second"))]

theorem everyone_obtains_the_first_kill :
    ((start panickingScript).moves twoKills).control.outcome = some (.error (.failed "first"))
      ∧ (∀ later, (((start panickingScript).moves twoKills).moves later).control.outcome
        = some (.error (.failed "first")))
      ∧ (∃ millisecond, (((start panickingScript).moves twoKills).move (.resume (.call 2))).calls[2]?
        = some ⟨.kill "second", .finished (.recorded false) millisecond⟩)
      ∧ ∃ millisecond, (((start panickingScript).moves twoKills).move (.resume (.call 0))).calls[0]?
        = some ⟨.wait, .finished (.result (.error (.failed "first"))) millisecond⟩ := by
  obtain ⟨⟨done, rest, -, kills⟩, results, calls, -⟩ :=
    everyone_obtains_the_result panickingScript twoKills rfl
  have stored : ((start panickingScript).moves twoKills).control.outcome
      = some (.error (.failed "first")) := rfl
  obtain ⟨accepted, millisecond, answered, iff⟩ := kills 2 "second" rfl
  obtain ⟨-, obtains⟩ := calls 0 ⟨.wait, .awaitingResult⟩ rfl rfl
  refine ⟨stored, (results _ stored).2.2, ⟨millisecond, ?_⟩, (obtains _ stored rfl).2⟩
  cases accepted with
  | false => exact answered
  | true => exact absurd (iff.mp rfl).1 (by decide +kernel)

end BoundedScene.Supervision.Session
