import BoundedScene.Proofs.Supervision.Steps

/-!
Contract: how far a supervised loop has come, and what its calls are answered.

Owns:
- `Progress`, the position of the loop in its script;
- the kills that were accepted;
- `Call.Fits`, the answers a call can have;
- `Course`, all of it for a session whose task is not lost.

Main statement: `Reachable.course`.

Does not own: whether the loop and the calls get their turns.
-/

namespace BoundedScene.Supervision

variable {Mark : Type}

/-! ## Calls -/

/-- The request is answered with the terminal result. -/
def Request.asksResult : Request → Bool
  | .stop => true
  | .wait => true
  | _ => false

/-- The error of a kill that returned true. -/
def Call.acceptedKill? (call : Call) : Option String :=
  match call.request, call.stage with
  | .kill message, .finished (.recorded true) _ => some message
  | _, _ => none

/-- What becomes of a call that is given up. -/
def Call.givenUp (call : Call) : Call :=
  if call.isUnfinished then { call with stage := .dropped } else call

theorem Call.acceptedKill?_unfinished {call : Call} (unfinished : call.isUnfinished = true) :
    call.acceptedKill? = none := by
  obtain ⟨request, stage⟩ := call
  cases request <;> cases stage <;> first | rfl | cases unfinished

theorem Call.acceptedKill?_of_request {request : Request}
    (other : ∀ message, request ≠ .kill message) (stage : Stage) :
    Call.acceptedKill? ⟨request, stage⟩ = none := by
  cases request with
  | kill message => exact absurd rfl (other message)
  | _ => rfl

theorem Request.not_kill_of_asks {request : Request} (asks : request.asksResult = true)
    (message : String) : request ≠ .kill message := by
  rintro rfl
  cases asks

theorem Call.acceptedKill?_givenUp (call : Call) :
    call.givenUp.acceptedKill? = call.acceptedKill? := by
  unfold givenUp
  split
  case isTrue unfinished =>
    rw [acceptedKill?_unfinished unfinished]
    cases call.request <;> rfl
  case isFalse => rfl

/-- Calls wait for what they asked for, and are answered it; the only result there is
is the stored one. -/
inductive Call.Fits (outcome : Option (Except LoopError Unit)) : Call → Prop where
  | fresh (request : Request) : Fits outcome ⟨request, .fresh⟩
  | dropped (request : Request) : Fits outcome ⟨request, .dropped⟩
  | awaitsResult {request : Request} (asks : request.asksResult = true) :
      Fits outcome ⟨request, .awaitingResult⟩
  | result {request : Request} {result : Except LoopError Unit}
      (asks : request.asksResult = true) (stored : outcome = some result) (millisecond : Nat) :
      Fits outcome ⟨request, .finished (.result result) millisecond⟩
  | recorded (message : String) (accepted : Bool) (millisecond : Nat) :
      Fits outcome ⟨.kill message, .finished (.recorded accepted) millisecond⟩
  | awaitsEnding : Fits outcome ⟨.ending, .awaitingEnding⟩
  | ending (millisecond : Nat) : Fits outcome ⟨.ending, .finished .ending millisecond⟩
  | flags (isEnding isFinished : Bool) (millisecond : Nat) :
      Fits outcome ⟨.look, .finished (.flags isEnding isFinished) millisecond⟩

/-- A stored result stays, so the answers stay right. -/
theorem Call.Fits.mono {before after : Option (Except LoopError Unit)} {call : Call}
    (fits : Fits before call) (stays : ∀ result, before = some result → after = some result) :
    Fits after call := by
  cases fits with
  | fresh => exact .fresh _
  | dropped => exact .dropped _
  | awaitsResult asks => exact .awaitsResult asks
  | result asks stored => exact .result asks (stays _ stored) _
  | recorded => exact .recorded _ _ _
  | awaitsEnding => exact .awaitsEnding
  | ending => exact .ending _
  | flags => exact .flags _ _ _

theorem Call.Fits.givenUp {outcome : Option (Except LoopError Unit)} {call : Call}
    (fits : Fits outcome call) : Fits outcome call.givenUp := by
  unfold Call.givenUp
  split
  · exact .dropped _
  · exact fits

namespace Session

/-- The errors of the kills that returned true. -/
def acceptedKills (session : Session Mark) : List String :=
  session.calls.filterMap Call.acceptedKill?

/-- The loop has executed some actions, and nothing else. -/
structure Executed (done : List (LoopAction Mark)) (session : Session Mark) : Prop where
  log : ∃ pieces, List.Forall₂ LoopAction.Leaves done pieces ∧ session.log = pieces.flatten
  concluded : session.control.concluded = true ↔ .conclude ∈ done

/-- The loop has executed the actions `done` of its script and is before `rest`; it stored
its result when it returned, and not before. -/
structure Progress (script done rest : List (LoopAction Mark)) (session : Session Mark) :
    Prop where
  whole : script = done ++ rest
  executed : session.Executed done
  position : (∃ alarm, session.loop = .running rest alarm ∧ session.control.outcome = none)
    ∨ (session.loop = .returned ∧ LoopAction.isOver rest
      ∧ session.control.outcome = some (session.control.resolve (LoopAction.ownResult script)))

/-- A session whose task is not lost: where its loop is, whose error is recorded, and what
its calls are answered. -/
structure Course (script : List (LoopAction Mark)) (session : Session Mark) : Prop where
  progress : ∃ done rest, Progress script done rest session
  kills : session.acceptedKills.map LoopError.failed = session.control.killed.toList
  fits : ∀ call ∈ session.calls, call.Fits session.control.outcome

variable {script : List (LoopAction Mark)} {before after session : Session Mark}

/-! ## The loop -/

/-- What concerns neither the loop nor a stored result leaves the loop where it is. -/
theorem Progress.congr {done rest : List (LoopAction Mark)}
    (progress : Progress script done rest before) (loop : after.loop = before.loop)
    (log : after.log = before.log)
    (concluded : after.control.concluded = before.control.concluded)
    (outcome : after.control.outcome = before.control.outcome)
    (killed : before.control.isFinished = true → after.control.killed = before.control.killed) :
    Progress script done rest after where
  whole := progress.whole
  executed := by
    constructor
    case log => rw [log]; exact progress.executed.log
    case concluded => rw [concluded]; exact progress.executed.concluded
  position := by
    rcases progress.position with ⟨alarm, running, unset⟩ | ⟨returned, ceased, stored⟩
    · exact .inl ⟨alarm, loop.trans running, outcome.trans unset⟩
    · refine .inr ⟨loop.trans returned, ceased, outcome.trans ?_⟩
      have finished : before.control.isFinished = true := by simp [Control.isFinished, stored]
      unfold Control.resolve at stored ⊢
      rw [stored, killed finished]

theorem Executed.runs {done more : List (LoopAction Mark)} (executed : before.Executed done)
    (runs : Runs before more after) : after.Executed (done ++ more) where
  log := by
    obtain ⟨early, leaves, log⟩ := executed.log
    obtain ⟨late, others, longer⟩ := runs.leaves
    refine ⟨early ++ late, List.rel_append leaves others, ?_⟩
    rw [longer, log, List.flatten_append]
  concluded := by
    rw [List.mem_append]
    rcases runs.spares.control with ⟨silent, same⟩ | ⟨announced, same⟩
    · rw [same, executed.concluded]
      exact ⟨.inl, fun member => member.resolve_right silent⟩
    · rw [same]
      exact ⟨fun _ => .inr announced, fun _ => rfl⟩

theorem Executed.ownResult {done rest : List (LoopAction Mark)}
    (executed : session.Executed done) :
    LoopAction.ownResult (done ++ rest) = LoopAction.ownResult rest := by
  obtain ⟨pieces, leaves, -⟩ := executed.log
  exact LoopAction.ownResult_append (LoopAction.unfinal_of_leaves leaves)

/-- Actions of the loop concern no call and no kill. -/
theorem Runs.acceptedKills {done : List (LoopAction Mark)} (runs : Runs before done after) :
    after.acceptedKills = before.acceptedKills := by
  unfold Session.acceptedKills
  rw [runs.spares.calls]

theorem Course.resumeLoop (course : Course script session) :
    Course script session.resumeLoop := by
  unfold Session.resumeLoop
  split
  case h_2 => exact course
  case h_1 remaining alarm running =>
    obtain ⟨done, rest, progress⟩ := course.progress
    rcases progress.position with ⟨_, at_, unset⟩ | ⟨returned, -⟩
    case inr => cases running.symm.trans returned
    cases running.symm.trans at_
    obtain ⟨more, rest, reached, rfl, runs, turn⟩ := proceed_runs remaining alarm session
    have whole : script = (done ++ more) ++ rest := by
      rw [progress.whole, List.append_assoc]
    have executed := progress.executed.runs runs
    have spares := runs.spares
    have outcome : reached.control.outcome = none := spares.outcome.trans unset
    have kills : reached.acceptedKills.map LoopError.failed = reached.control.killed.toList := by
      rw [runs.acceptedKills, spares.killed]
      exact course.kills
    have fits : ∀ call ∈ reached.calls, call.Fits none := by
      rw [spares.calls, ← unset]
      exact course.fits
    rcases turn with ⟨due, parked, -⟩ | ⟨finished, ceased⟩
    · rw [parked]
      exact ⟨⟨_, rest, whole, ⟨executed.log, executed.concluded⟩, .inl ⟨due, rfl, outcome⟩⟩, kills,
        outcome.symm ▸ fits⟩
    · rw [finished]
      refine ⟨⟨_, rest, whole, ⟨executed.log, executed.concluded⟩, .inr ⟨rfl, ceased, ?_⟩⟩, kills,
        fun call member => (fits call member).mono nofun⟩
      rw [whole, executed.ownResult]
      rfl

/-! ## The calls -/

/-- A change of the control surface that concerns neither the loop nor the result. -/
theorem Course.steer (course : Course script session) {control : Control LoopError}
    (concluded : control.concluded = session.control.concluded)
    (killed : control.killed = session.control.killed)
    (outcome : control.outcome = session.control.outcome) (woken : List Task) :
    Course script (session.updateControl control woken) where
  progress := by
    obtain ⟨done, rest, progress⟩ := course.progress
    exact ⟨done, rest, progress.congr rfl rfl concluded outcome fun _ => killed⟩
  kills := course.kills.trans (congrArg Option.toList killed.symm)
  fits call member := (course.fits call member).mono fun _ => outcome.trans

/-- Where a list is changed that is changed in one place. -/
theorem exists_modify {α : Type} {entries : List α} {id : Nat} {entry : α}
    (found : entries[id]? = some entry) (change : α → α) :
    ∃ older newer, entries = older ++ entry :: newer
      ∧ entries.modify id change = older ++ change entry :: newer := by
  obtain ⟨inside, rfl⟩ := List.getElem?_eq_some_iff.mp found
  refine ⟨entries.take id, entries.drop (id + 1), ?_, List.modify_eq_take_cons_drop inside⟩
  rw [List.getElem_cons_drop, List.take_append_drop]

theorem setStage_calls {id : Nat} {call : Call} (found : session.calls[id]? = some call)
    (stage : Stage) :
    ∃ older newer, session.calls = older ++ call :: newer
      ∧ (session.setStage id stage).calls = older ++ { call with stage } :: newer :=
  exists_modify found fun call => { call with stage }

theorem setStage_acceptedKills {id : Nat} {call : Call}
    (found : session.calls[id]? = some call) (stage : Stage) :
    ∃ older newer, session.acceptedKills = older ++ call.acceptedKill?.toList ++ newer
      ∧ (session.setStage id stage).acceptedKills
        = older ++ (Call.acceptedKill? { call with stage }).toList ++ newer := by
  have single (call : Call) :
      [call].filterMap Call.acceptedKill? = call.acceptedKill?.toList := by
    cases accepted : call.acceptedKill? <;> simp [accepted]
  obtain ⟨older, newer, split, changed⟩ := setStage_calls found stage
  refine ⟨older.filterMap Call.acceptedKill?, newer.filterMap Call.acceptedKill?, ?_, ?_⟩
  · unfold acceptedKills
    rw [split, List.append_cons, List.filterMap_append, List.filterMap_append, single]
  · unfold acceptedKills
    rw [changed, List.append_cons, List.filterMap_append, List.filterMap_append, single]

theorem Course.fits_setStage (course : Course script session) {id : Nat} {call : Call}
    (found : session.calls[id]? = some call) {stage : Stage}
    (fits : Call.Fits session.control.outcome { call with stage }) :
    ∀ call ∈ (session.setStage id stage).calls, call.Fits session.control.outcome := by
  obtain ⟨older, newer, split, changed⟩ := setStage_calls found stage
  have others := course.fits
  rw [split] at others
  rw [changed]
  intro other member
  rcases List.mem_append.mp member with old | tail
  · exact others other (List.mem_append_left _ old)
  · rcases List.mem_cons.mp tail with rfl | new
    · exact fits
    · exact others other (List.mem_append_right _ (List.mem_cons_of_mem _ new))

/-- An answer that fits, other than that of a kill. -/
theorem Course.setStage (course : Course script session) {id : Nat} {call : Call}
    (found : session.calls[id]? = some call) {stage : Stage}
    (fits : Call.Fits session.control.outcome { call with stage })
    (unaccepted : Call.acceptedKill? { call with stage } = call.acceptedKill?) :
    Course script (session.setStage id stage) where
  progress := by
    obtain ⟨done, rest, progress⟩ := course.progress
    exact ⟨done, rest, progress.congr rfl rfl rfl rfl fun _ => rfl⟩
  kills := by
    obtain ⟨older, newer, split, changed⟩ := setStage_acceptedKills found stage
    rw [changed, unaccepted, ← split]
    exact course.kills
  fits := course.fits_setStage found fits

/-- A kill records its error if none was recorded, the loop did not conclude, and no
result is stored. -/
theorem Course.kill (course : Course script session) {id : Nat} {message : String}
    (found : session.calls[id]? = some ⟨.kill message, .fresh⟩) (millisecond : Nat) :
    Course script ((session.struck message).setStage id
      (.finished (.recorded session.control.acceptsKill) millisecond)) where
  progress := by
    obtain ⟨done, rest, progress⟩ := course.progress
    refine ⟨done, rest, progress.congr rfl rfl rfl rfl fun finished => ?_⟩
    have refused : session.control.acceptsKill = false := by
      simp [Control.acceptsKill, finished]
    show (if session.control.acceptsKill then _ else session.control.killed) = _
    rw [refused]
    rfl
  kills := by
    obtain ⟨older, newer, split, changed⟩ := setStage_acceptedKills
      (show (session.struck message).calls[id]? = some ⟨.kill message, .fresh⟩ from found)
      (.finished (.recorded session.control.acceptsKill) millisecond)
    have split : session.acceptedKills = older ++ [] ++ newer := split
    have kills := course.kills
    rw [changed]
    show _ = (if session.control.acceptsKill then _ else session.control.killed).toList
    cases accepts : session.control.acceptsKill with
    | false =>
        rw [split] at kills
        exact kills
    | true =>
        -- No error was recorded, so no earlier kill returned true.
        have unkilled : session.control.killed = none := by
          simp [Control.acceptsKill] at accepts
          exact accepts.1.1
        rw [split, unkilled] at kills
        obtain ⟨rfl, rfl⟩ : older = [] ∧ newer = [] := by simpa using kills
        rfl
  fits := course.fits_setStage found (.recorded _ _ _)

theorem resultStage_fits (kept : session.control.lost = false) {request : Request}
    (asks : request.asksResult = true) :
    Call.Fits session.control.outcome ⟨request, session.resultStage⟩ := by
  unfold resultStage Control.result?
  cases outcome : session.control.outcome with
  | some result => exact .result asks rfl _
  | none =>
      rw [kept]
      exact .awaitsResult asks

theorem Course.resultStage (course : Course script session) (kept : session.control.lost = false)
    {id : Nat} {request : Request} {stage : Stage}
    (found : session.calls[id]? = some ⟨request, stage⟩) (asks : request.asksResult = true) :
    Course script (session.setStage id session.resultStage) :=
  course.setStage found (resultStage_fits kept asks) (by
    simp only [Call.acceptedKill?_of_request (Request.not_kill_of_asks asks)])

theorem Course.turn (course : Course script before) (kept : before.control.lost = false)
    {id : Nat} {call : Call} (found : before.calls[id]? = some call)
    (turn : before.Turn id call after) : Course script after := by
  have fits := course.fits call (List.mem_of_getElem? found)
  obtain ⟨request, stage⟩ := call
  cases turn with
  | stops asked fresh =>
      cases asked
      have steered : Course script before.asked := by
        refine course.steer ?_ ?_ ?_ _ <;> rfl
      exact steered.resultStage kept found rfl
  | kills asked fresh =>
      cases asked
      cases fresh
      exact course.kill found _
  | waits asks =>
      have asks : request.asksResult = true := by
        rcases asks with ⟨rfl, -⟩ | waiting
        · rfl
        · cases waiting
          cases fits
          assumption
      exact course.resultStage kept found asks
  | watches asks =>
      have request : request = .ending := by
        rcases asks with ⟨asked, -⟩ | waiting
        · exact asked
        · cases waiting
          cases fits
          rfl
      subst request
      refine course.setStage found ?_ (by simp [Call.acceptedKill?_of_request])
      unfold endingStage
      split
      · exact .ending _
      · exact .awaitsEnding
  | looks asked fresh =>
      cases asked
      exact course.setStage found (.flags _ _ _) (by simp [Call.acceptedKill?_of_request])
  | ceased => exact course

/-! ## Moves -/

/-- Calls come and go without a word to the loop. -/
theorem Course.withCalls (course : Course script session) {calls : List Call}
    (kills : calls.filterMap Call.acceptedKill? = session.acceptedKills)
    (fits : ∀ call ∈ calls, call.Fits session.control.outcome) :
    Course script { session with calls } where
  progress := by
    obtain ⟨done, rest, progress⟩ := course.progress
    exact ⟨done, rest, progress.congr rfl rfl rfl rfl fun _ => rfl⟩
  kills := by
    unfold acceptedKills
    rw [kills]
    exact course.kills
  fits := fits

theorem Course.cancel (course : Course script session) (id : Nat) :
    Course script (session.act (.cancel id)) := by
  show Course script { session with calls := session.calls.modify id Call.givenUp }
  cases found : session.calls[id]? with
  | none =>
      rw [List.modify_eq_self (List.getElem?_eq_none_iff.mp found)]
      exact course
  | some call =>
      obtain ⟨older, newer, split, changed⟩ := exists_modify found Call.givenUp
      have fits := course.fits
      rw [split] at fits
      refine course.withCalls ?_ fun other member => ?_
      · unfold acceptedKills
        rw [changed, split, List.append_cons, List.append_cons older call]
        simp only [List.filterMap_append, List.filterMap_cons, Call.acceptedKill?_givenUp]
      · rw [changed] at member
        rcases List.mem_append.mp member with old | tail
        · exact fits other (List.mem_append_left _ old)
        · rcases List.mem_cons.mp tail with rfl | new
          · exact (fits call (by simp)).givenUp
          · exact fits other (List.mem_append_right _ (List.mem_cons_of_mem _ new))

/-- When every task is destroyed after the result was stored, only calls are given up. -/
theorem Course.dropTasks (course : Course script session)
    (kept : session.dropTasks.control.lost = false) : Course script session.dropTasks := by
  have finished : session.control.isFinished = true := by
    have unlost : (session.control.lost || !session.control.isFinished) = false := kept
    simpa using (Bool.or_eq_false_iff.mp unlost).2
  obtain ⟨done, rest, progress⟩ := course.progress
  have returned : session.loop = .returned := by
    rcases progress.position with ⟨alarm, -, unset⟩ | ⟨returned, -⟩
    · simp [Control.isFinished, unset] at finished
    · exact returned
  refine ⟨⟨done, rest, progress.congr ?_ rfl rfl rfl fun _ => rfl⟩, ?_, fun call member => ?_⟩
  · unfold Session.dropTasks
    simp only [returned]
  · have kills : (session.calls.map Call.givenUp).filterMap Call.acceptedKill?
        = session.acceptedKills := by
      rw [List.filterMap_map]
      exact congrArg (session.calls.filterMap ·) (funext Call.acceptedKill?_givenUp)
    exact (congrArg _ kills).trans course.kills
  · obtain ⟨old, present, rfl⟩ := List.mem_map.mp member
    exact (course.fits old present).givenUp

theorem Course.act (course : Course script session) (deed : Deed)
    (kept : (session.act deed).control.lost = false) : Course script (session.act deed) := by
  cases deed with
  | call request =>
      have made : Course script { session with calls := session.calls ++ [⟨request, .fresh⟩] } := by
        refine course.withCalls ?_ fun call member => ?_
        · rw [List.filterMap_append, List.filterMap_cons_none (Call.acceptedKill?_unfinished rfl)]
          exact List.append_nil _
        · rcases List.mem_append.mp member with old | new
          · exact course.fits call old
          · rw [List.mem_singleton.mp new]
            exact .fresh request
      exact made.steer rfl rfl rfl [.call session.calls.length]
  | cancel id => exact course.cancel id
  | permit count =>
      obtain ⟨done, rest, progress⟩ := course.progress
      exact ⟨⟨done, rest, progress.congr rfl rfl rfl rfl fun _ => rfl⟩, course.kills, course.fits⟩
  | dropTasks => exact course.dropTasks kept

/-- A task that is lost stays lost. -/
theorem kept_before (session : Session Mark) (move : Move)
    (kept : (session.move move).control.lost = false) : session.control.lost = false := by
  cases move with
  | reach instant => exact kept
  | act deed =>
      cases deed with
      | dropTasks => exact (Bool.or_eq_false_iff.mp kept).1
      | _ => exact kept
  | resume task =>
      cases task with
      | loop => exact (session.dequeue .loop).resumeLoop_steady.lost.symm.trans kept
      | call id => exact ((session.dequeue (.call id)).resumeCall_steady id).1.symm.trans kept

/-- The run queue and the clock do not matter for what has come about. -/
theorem Course.withAgenda (course : Course script session) (agenda : Agenda Task) :
    Course script { session with agenda } := by
  obtain ⟨done, rest, progress⟩ := course.progress
  exact ⟨⟨done, rest, progress.congr rfl rfl rfl rfl fun _ => rfl⟩, course.kills, course.fits⟩

theorem Course.move (course : Course script session) (move : Move)
    (kept : (session.move move).control.lost = false) : Course script (session.move move) := by
  have unlost := kept_before session move kept
  cases move with
  | reach instant => exact course.withAgenda _
  | act deed => exact course.act deed kept
  | resume task =>
      have dequeued : Course script (session.dequeue task) := course.withAgenda _
      cases task with
      | loop => exact dequeued.resumeLoop
      | call id =>
          show Course script ((session.dequeue (.call id)).resumeCall id)
          cases found : session.calls[id]? with
          | none =>
              rw [resumeCall_none (show (session.dequeue (.call id)).calls[id]? = none from found)]
              exact dequeued
          | some call => exact dequeued.turn unlost found (resumeCall_turn found)

theorem Reachable.course (reachable : Reachable script session)
    (kept : session.control.lost = false) : Course script session := by
  induction reachable with
  | started =>
      have executed : Executed [] (start script) := ⟨⟨[], .nil, rfl⟩, ⟨nofun, nofun⟩⟩
      exact ⟨⟨[], script, rfl, executed, .inl ⟨none, rfl, rfl⟩⟩, rfl, nofun⟩
  | @moved session move _ inductionHypothesis =>
      exact (inductionHypothesis (kept_before session move kept)).move move kept

end Session

end BoundedScene.Supervision
