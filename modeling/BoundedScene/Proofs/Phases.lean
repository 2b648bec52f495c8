import BoundedScene.Proofs.AbortRequests

/-!
Contract: the phase that a scene tells its callers, and what they experience.

Owns:
- `Happening.told?`, the records in which somebody is told the phase of the scene;
- `Ascent`, a run along which no phase that is told lies before an earlier one;
- `Refusals`, when a call can have been refused because the scene has ended;
- `TellsPhases`, how the phase relates to the answers that callers got.

The phase is moved on by the backend alone, the refusals follow the control surface.  So a
scene that is asked to stop is active until the next turn of its backend, and a scene that
lost its backend is active for good, while both refuse every command.

Main statement: `phases_move_forward`.

Does not own: why the scene ends.
-/

namespace BoundedScene

open BoundedScene.Supervision (Control)

/-- The phase that an answer tells. -/
def Answer.phase? {V : Type} : Answer V → Option Phase
  | .phase told => some told
  | _ => none

/-- The phase that a record tells: the answer to a caller who asked for it, or what a
cleanup observed. -/
def Happening.told? {V : Type} : Happening V → Option Phase
  | .answered _ answer => answer.phase?
  | .cleaned run => run.observed
  | _ => none

namespace Session

variable {V : Type} {session before after : Session V} {id : Nat} {call : Call V}
  {log : List (Happening V)} {changes : List (CallChange V)} {stage : Stage V}

/-- The phases that were told so far, oldest first. -/
def toldPhases (session : Session V) : List Phase :=
  session.happenings.filterMap Happening.told?

/-! ## What each step tells -/

theorem phase?_terminalAnswer (request : Request V) (result : Except SceneError Unit) :
    (terminalAnswer request result).phase? = none := by
  unfold terminalAnswer
  split
  · rfl
  · split <;> rfl

theorem phase?_responseAnswer (response : Response V) :
    (responseAnswer response).phase? = none := by
  unfold responseAnswer
  split <;> rfl

theorem ResultTurn.untold {control : Control SceneError} {request : Request V}
    (turn : ResultTurn control id request log stage) : log.filterMap Happening.told? = [] := by
  cases turn with
  | waits unset => rfl
  | told set => simp [Happening.told?, phase?_terminalAnswer]

theorem SignalTurn.untold {control : Control SceneError} {clock : Clock} {topic : String}
    {deadline : Option Nat} (turn : SignalTurn control clock id call topic deadline log stage) :
    log.filterMap Happening.told? = [] := by
  cases turn with
  | overtaken lapsed turn => exact turn.untold
  | _ => rfl

theorem ReplyTurn.untold {control : Control SceneError} {clock : Clock} {response : Response V}
    (turn : ReplyTurn control clock id call response log stage) :
    log.filterMap Happening.told? = [] := by
  cases turn with
  | answered final => simp [Happening.told?, phase?_responseAnswer]
  | registered deadline asks accepted turn => exact turn.untold

theorem SubmitTurn.untold {control : Control SceneError} {command : Command V}
    {mailbox later : Mailbox (Envelope V)}
    (turn : SubmitTurn control mailbox id command log stage later) :
    log.filterMap Happening.told? = [] := by
  cases turn <;> rfl

theorem Opening.untold (opens : Opening id stage log) :
    log.filterMap Happening.told? = [] ∧ ∀ answer, .answered id answer ∉ log := by
  cases opens <;> simp [Happening.told?]

/-- A call is told the phase that the scene is in. -/
theorem CallTurn.told {mailbox : Mailbox (Envelope V)}
    (turn : CallTurn before id call log changes mailbox) :
    ∀ phase ∈ log.filterMap Happening.told?, phase = before.phase := by
  intro phase told
  have silent {log : List (Happening V)} (untold : log.filterMap Happening.told? = [])
      (told : phase ∈ log.filterMap Happening.told?) : phase = before.phase := by
    rw [untold] at told
    cases told
  cases turn with
  | rests | strays | aborts => cases told
  | stops fresh asks turn => exact silent turn.untold told
  | waits fresh asks turn => exact silent turn.untold told
  | looks fresh asks => exact List.mem_singleton.mp told
  | submits opens sends turn =>
      rw [List.filterMap_append, opens.untold.1, turn.untold] at told
      cases told
  | replied waiting filled turn => exact silent turn.untold told
  | overtaken waiting lapsed turn => exact silent turn.untold told
  | listens waiting asks turn => exact silent turn.untold told
  | asks waiting turn => exact silent turn.untold told

/-- A cleanup observes the phase in which it is run. -/
theorem told_cleanupLog {phase told : Phase} {prop : StoredProp V}
    (member : told ∈ (cleanupLog phase prop).filterMap Happening.told?) : told = phase := by
  unfold cleanupLog at member
  cases present : prop.cleanup with
  | none =>
      rw [present] at member
      cases member
  | some cleanup =>
      rw [present] at member
      cases act : cleanup.act <;> simp [act, Happening.told?] at member
      exact member

theorem told_serveLog (session : Session V) (envelope : Envelope V) :
    ∀ phase ∈ (session.serveLog envelope).filterMap Happening.told?, phase = session.phase := by
  intro phase told
  rw [serveLog, List.filterMap_append, show [Happening.processed
    (session.entryFor envelope)].filterMap Happening.told? = [] from rfl, List.append_nil] at told
  -- Only a dispose puts anything but its entry into the journal.
  cases command : envelope.command with
  | dispose key =>
      rw [command, effect] at told
      split at told
      · cases told
      · exact told_cleanupLog told
  | store prop =>
      rw [command, effect] at told
      split at told <;> cases told
  | fetch key =>
      rw [command] at told
      cases told
  | signal topic =>
      rw [command, effect] at told
      split at told <;> cases told
  | subscribe topic =>
      rw [command] at told
      cases told

theorem EndCause.told {heralds : List Event} {error : Option SceneError}
    (cause : EndCause before log heralds error after) :
    ∀ phase ∈ (before.endLog log error).filterMap Happening.told?,
      phase = before.phase.later .ending := by
  intro phase told
  have heralded : log.filterMap Happening.told? = [] := by cases cause <;> rfl
  rw [endLog, List.filterMap_append, List.filterMap_append, heralded, List.nil_append] at told
  rcases List.mem_append.mp told with torn | last
  · obtain ⟨happening, logged, tells⟩ := List.mem_filterMap.mp torn
    obtain ⟨prop, -, cleaned⟩ := List.mem_flatMap.mp logged
    exact told_cleanupLog (List.mem_filterMap.mpr ⟨happening, cleaned, tells⟩)
  · cases last

/-! ## Ascents -/

/-- From `before` to `after` the records `log` were made, and the phases they tell lie
between those of the two scenes and never go back. -/
structure Ascent (before after : Session V) (log : List (Happening V)) : Prop where
  happenings : after.happenings = before.happenings ++ log
  ordered : (log.filterMap Happening.told?).Pairwise fun early late => early.rank ≤ late.rank
  within : ∀ phase ∈ log.filterMap Happening.told?,
    before.phase.rank ≤ phase.rank ∧ phase.rank ≤ after.phase.rank
  rises : before.phase.rank ≤ after.phase.rank

theorem Ascent.refl (session : Session V) : Ascent session session [] where
  happenings := (List.append_nil _).symm
  ordered := .nil
  within := by simp
  rises := Nat.le_refl _

theorem Ascent.trans {middle : Session V} {later : List (Happening V)}
    (first : Ascent before middle log) (second : Ascent middle after later) :
    Ascent before after (log ++ later) where
  happenings := by rw [second.happenings, first.happenings, List.append_assoc]
  ordered := by
    rw [List.filterMap_append, List.pairwise_append]
    refine ⟨first.ordered, second.ordered, fun early told late new => ?_⟩
    exact Nat.le_trans (first.within early told).2 (second.within late new).1
  within phase told := by
    rw [List.filterMap_append, List.mem_append] at told
    have rises := first.rises
    have risesOn := second.rises
    rcases told with earlier | new
    · have bounds := first.within phase earlier
      omega
    · have bounds := second.within phase new
      omega
  rises := Nat.le_trans first.rises second.rises

/-- A step in which everybody is told the same phase. -/
theorem ascent_of_told {phase : Phase} (happenings : after.happenings = before.happenings ++ log)
    (told : ∀ other ∈ log.filterMap Happening.told?, other = phase)
    (above : before.phase.rank ≤ phase.rank) (below : phase.rank ≤ after.phase.rank) :
    Ascent before after log where
  happenings := happenings
  ordered := by
    apply List.pairwise_of_forall_mem_list
    intro early earlier late new
    rw [told early earlier, told late new]
  within other member := by
    rw [told other member]
    exact ⟨above, below⟩
  rises := Nat.le_trans above below

theorem rank_le_later (phase next : Phase) : phase.rank ≤ (phase.later next).rank := by
  unfold Phase.later
  split
  · assumption
  · exact Nat.le_refl _

theorem Advance.ascends (step : Advance before after) : ∃ log, Ascent before after log := by
  have steady {log : List (Happening V)} (happenings : after.happenings = before.happenings ++ log)
      (phase : after.phase = before.phase)
      (told : ∀ other ∈ log.filterMap Happening.told?, other = before.phase) :
      ∃ log, Ascent before after log :=
    ⟨log, ascent_of_told happenings told (Nat.le_refl _) (Nat.le_of_eq (by rw [phase]))⟩
  cases step with
  | drifts growth => exact steady growth.happenings growth.phase (by simp)
  | makes request =>
      have growth := before.makeCall_evolves request
      exact steady growth.happenings growth.phase (by simp)
  | turns found =>
      obtain ⟨log, changes, mailbox, turn, growth, -⟩ := before.resumeCall_turnsBy _ _ found
      exact steady growth.happenings growth.phase turn.told
  | cancels found unfinished =>
      have growth := (before.cancel_evolves found unfinished).1
      exact steady growth.happenings growth.phase (by simp [Happening.told?])
  | opens fresh =>
      have growth := before.openUp_evolves
      exact steady growth.happenings growth.phase (by simp [Happening.told?])
  | @processes envelope rest serving unstopped undue taken =>
      obtain ⟨backend, -, growth⟩ := serveOne_evolves serving envelope rest
      exact steady growth.happenings growth.phase (before.told_serveLog envelope)
  | ends serving cause =>
      have growth := cause.evolves
      refine ⟨_, ascent_of_told growth.happenings cause.told (rank_le_later _ _) ?_⟩
      rw [growth.phase]
      exact rank_le_later _ _
  | loses =>
      exact steady (List.append_nil _).symm rfl (by simp)

theorem Advances.ascends (run : Advances before after) : ∃ log, Ascent before after log := by
  induction run with
  | refl => exact ⟨[], .refl before⟩
  | tail _ step inductionHypothesis =>
      obtain ⟨log, earlier⟩ := inductionHypothesis
      obtain ⟨news, last⟩ := step.ascends
      exact ⟨log ++ news, earlier.trans last⟩

/-- The whole journal of a scene is an ascent. -/
theorem Passed.told (passed : Passed session) :
    session.toldPhases.Pairwise (fun early late => early.rank ≤ late.rank)
      ∧ ∀ phase ∈ session.toldPhases, phase.rank ≤ session.phase.rank := by
  induction passed with
  | initial initial => simp [toldPhases, happenings, initial.journal]
  | advance passed step inductionHypothesis =>
      obtain ⟨ordered, below⟩ := inductionHypothesis
      obtain ⟨log, ascent⟩ := step.ascends
      unfold toldPhases at ordered below ⊢
      rw [ascent.happenings, List.filterMap_append]
      constructor
      · rw [List.pairwise_append]
        refine ⟨ordered, ascent.ordered, fun early told late new => ?_⟩
        exact Nat.le_trans (below early told) (ascent.within late new).1
      · intro phase told
        rcases List.mem_append.mp told with earlier | new
        · exact Nat.le_trans (below phase earlier) ascent.rises
        · exact (ascent.within phase new).2

/-! ## The phase and the result -/

/-- A scene whose backend has not returned is in its first phase. -/
theorem Passed.phase_of_unreturned (passed : Passed session)
    (unreturned : session.backend ≠ .returned) : session.phase = .active := by
  induction passed with
  | initial initial => exact initial.phase
  | @advance before after passed step inductionHypothesis =>
      have kept {log : List (Happening V)} {changes : List (CallChange V)} {events : List Event}
          {earlier : Session V} (growth : Evolves log changes events earlier after)
          (phase : earlier.phase = before.phase) (ran : before.backend ≠ .returned) :
          after.phase = .active := by
        rw [growth.phase, phase]
        exact inductionHypothesis ran
      have unmoved {log : List (Happening V)} {changes : List (CallChange V)}
          {events : List Event} {earlier : Session V}
          (growth : Evolves log changes events earlier after)
          (backend : earlier.backend = before.backend) : before.backend ≠ .returned := by
        rw [← backend, ← growth.backend]
        exact unreturned
      cases step with
      | drifts growth => exact kept growth rfl (unmoved growth rfl)
      | makes request =>
          have growth := before.makeCall_evolves request
          exact kept growth rfl (unmoved growth rfl)
      | turns found =>
          obtain ⟨log, changes, mailbox, turn, growth, -⟩ := before.resumeCall_turnsBy _ _ found
          exact kept growth rfl (unmoved growth rfl)
      | cancels found unfinished =>
          have growth := (before.cancel_evolves found unfinished).1
          exact kept growth rfl (unmoved growth rfl)
      | opens fresh => exact kept before.openUp_evolves rfl (by simp [fresh])
      | @processes envelope rest serving unstopped undue taken =>
          obtain ⟨backend, -, growth⟩ := serveOne_evolves serving envelope rest
          refine kept growth rfl fun returned => ?_
          exact not_serving_of_returned returned serving
      | ends serving cause => exact absurd cause.backend unreturned
      | loses =>
          exact inductionHypothesis fun returned =>
            unreturned (backend_dropTasks_returned.mpr returned)

/-- The phase of a scene, between the turns of its tasks, says whether its result is
stored. -/
theorem Passed.phase_eq (passed : Passed session) :
    session.phase = if session.control.outcome.isSome then .ended else .active := by
  cases outcome : session.control.outcome with
  | some result => exact (passed.ended outcome).phase
  | none =>
      apply passed.phase_of_unreturned
      intro returned
      have set := (passed.steered.returned returned).1
      rw [outcome] at set
      cases set

/-! ## Refusals -/

/-- A call is refused because the scene has ended only once it started to end, or its
backend was lost. -/
def Refusals (session : Session V) : Prop :=
  ∀ id, .answered id (.failed .ended) ∈ session.happenings →
    session.control.ending = true ∨ session.control.lost = true

theorem Steered.ending_of_settled (steered : session.Steered) {result : Except SceneError Unit}
    (settled : settled? session.control = some result) :
    session.control.ending = true ∨ session.control.lost = true := by
  cases flag : session.control.lost with
  | true => exact .inr rfl
  | false =>
      have set : session.control.outcome = some result := by
        cases outcome : session.control.outcome with
        | none => simp [settled?, Control.result?, flag, outcome] at settled
        | some stored => simpa [settled?, Control.result?, outcome] using settled
      refine .inl ?_
      cases runs : session.backendRuns with
      | true =>
          rw [(steered.running runs).1] at set
          cases set
      | false =>
          rcases halted_cases runs with returned | lost
          · exact (steered.returned returned).2.1
          · rw [(steered.lost lost).1] at flag
            cases flag

section Turn

variable {mailbox : Mailbox (Envelope V)}

theorem ResultTurn.refuses {request : Request V}
    (turn : ResultTurn session.control id request log stage) (steered : session.Steered)
    {answer : Answer V} (refused : .answered id answer ∈ log) :
    session.control.ending = true ∨ session.control.lost = true := by
  cases turn with
  | waits unset => cases refused
  | told set => exact steered.ending_of_settled set

theorem SignalTurn.refuses {topic : String} {deadline : Option Nat}
    (turn : SignalTurn session.control session.clock id call topic deadline log stage)
    (steered : session.Steered) (refused : .answered id (.failed .ended) ∈ log) :
    session.control.ending = true ∨ session.control.lost = true := by
  cases turn with
  | raised raised => simp at refused
  | overtaken lapsed turn => exact turn.refuses steered (by simpa using refused)
  | expired silent ongoing due => simp at refused
  | waits => cases refused

/-- No command comes to the response that the scene has ended. -/
theorem Passed.response_ne_ended (passed : Passed session) {response : Response V}
    (found : session.calls[id]? = some call) (waiting : call.stage = .awaitingReply)
    (filled : call.reply = .filled response) : responseAnswer response ≠ .failed .ended := by
  obtain ⟨request, stage, reply, signal⟩ := call
  dsimp only at waiting filled
  subst waiting filled
  intro same
  have story := passed.chronicle.stories id _ found
  generalize records : session.recordsOf id = story' at story
  cases story with
  | queued sends unanswered => simp at unanswered
  | @processed _ _ command _ sends registers =>
      have listed : .processed { caller := id, command, response } ∈ session.recordsOf id := by
        rw [records]
        simp [processedStory]
      have fits := passed.fits _ (mem_ledger.mpr ((mem_recordsOf rfl).mp listed))
      cases fits <;> first | cases same | skip
      rename_i reply
      cases reply <;> cases same

/-- A turn in which a call is refused finds the scene about to end, or without its
backend. -/
theorem CallTurn.refuses (turn : CallTurn before id call log changes mailbox)
    (passed : Passed before) (found : before.calls[id]? = some call)
    (refused : .answered id (.failed .ended) ∈ log) :
    before.control.ending = true ∨ before.control.lost = true := by
  have steered := passed.steered
  cases turn with
  | rests | strays => cases refused
  | stops fresh asks turn => exact turn.refuses steered (by simpa using refused)
  | waits fresh asks turn => exact turn.refuses steered (by simpa using refused)
  | aborts fresh asks => simp at refused
  | looks fresh asks => simp at refused
  | submits opens sends turn =>
      cases turn with
      | refused barred =>
          refine barred.elim .inl fun closed => ?_
          cases runs : before.backendRuns with
          | true =>
              rw [(passed.chronicle.running runs).1] at closed
              cases closed
          | false =>
              rcases halted_cases runs with returned | lost
              · exact .inl (steered.returned returned).2.1
              · exact .inr (steered.lost lost).1
      | enters => exact absurd (by simpa using refused) (opens.untold.2 (.failed .ended))
      | linesUp => exact absurd (by simpa using refused) (opens.untold.2 (.failed .ended))
  | @replied response log stage waiting filled turn =>
      cases turn with
      | answered final =>
          have same : .failed .ended = responseAnswer response := by simpa using refused
          exact absurd same.symm (passed.response_ne_ended found waiting filled)
      | registered deadline asks accepted turn =>
          exact turn.refuses steered (by simpa using refused)
  | overtaken waiting lapsed turn => exact turn.refuses steered (by simpa using refused)
  | listens waiting asks turn => exact turn.refuses steered refused
  | asks waiting turn => exact turn.refuses steered refused

end Turn

theorem Refusals.advance (refusals : before.Refusals) (passed : Passed before)
    (step : Advance before after) : after.Refusals := by
  have later := step.later passed.steered
  have quiet {log : List (Happening V)} (happenings : after.happenings = before.happenings ++ log)
      (silent : ∀ id, .answered id (.failed .ended) ∈ log →
        before.control.ending = true ∨ before.control.lost = true) : after.Refusals := by
    intro id refused
    have cause : before.control.ending = true ∨ before.control.lost = true := by
      rw [happenings, List.mem_append] at refused
      rcases refused with earlier | new
      · exact refusals id earlier
      · exact silent id new
    exact cause.imp later.ending later.lost
  cases step with
  | drifts growth => exact quiet growth.happenings (by simp)
  | makes request => exact quiet (before.makeCall_evolves request).happenings (by simp)
  | @turns turned call found =>
      obtain ⟨log, changes, mailbox, turn, growth, -⟩ := before.resumeCall_turnsBy _ _ found
      refine quiet growth.happenings fun id refused => ?_
      obtain rfl : id = turned := turn.isByCall _ refused
      exact turn.refuses passed found refused
  | cancels found unfinished =>
      exact quiet (before.cancel_evolves found unfinished).1.happenings (by simp)
  | opens fresh => exact quiet before.openUp_evolves.happenings (by simp)
  | @processes envelope rest serving unstopped undue taken =>
      obtain ⟨backend, -, growth⟩ := serveOne_evolves serving envelope rest
      refine quiet growth.happenings fun id refused => ?_
      rcases List.mem_append.mp refused with cleaned | processed
      · cases isByCleanup_of_mem_effect_log cleaned
      · cases List.mem_singleton.mp processed
  | ends serving cause =>
      refine quiet cause.evolves.happenings fun id refused => ?_
      rw [endLog, List.mem_append, List.mem_append] at refused
      rcases refused with (herald | torn) | last
      · cases cause <;> simp at herald
      · cases isByCleanup_of_mem_teardownLog torn
      · cases List.mem_singleton.mp last
  | loses => exact quiet (List.append_nil _).symm (by simp)

theorem Passed.refusals (passed : Passed session) : session.Refusals := by
  induction passed with
  | initial initial => simp [Refusals, happenings, initial.journal]
  | advance passed step inductionHypothesis => exact inductionHypothesis.advance passed step

/-! ## The main statement -/

/-- A scene that was asked to end and whose backend has not noticed it yet: its next turn
ends the scene. -/
structure AboutToEnd (session : Session V) : Prop where
  runs : session.backendRuns = true
  asked : session.control.stopRequested = true
  ready : .backend ∈ session.agenda.ready
  turn : (session.move (.resume .backend)).phase = .ended

theorem Reachable.aboutToEnd (reachable : Reachable session) (runs : session.backendRuns = true)
    (asked : session.control.stopRequested = true) : session.AboutToEnd where
  runs := runs
  asked := asked
  ready := reachable.attentive.backend ⟨runs, .inr (.inl asked)⟩ (by simp)
  turn := by
    have turn := @SameEnd.stoppedTurn V (session.dequeue .backend) fun _ => asked
    have next := (reachable.moved (.resume .backend)).passed
    have same : session.move (.resume .backend) = (session.dequeue .backend).resumeBackend := rfl
    rw [same] at next ⊢
    refine next.phase_of_returned ?_
    generalize (session.dequeue .backend).resumeBackend = after at turn
    cases turn with
    | opens fresh => exact (finish_evolves _ none).backend
    | ends serving => exact (finish_evolves _ none).backend
    | rests gone =>
        have still : session.backendRuns = false := gone
        rw [runs] at still
        cases still

/-- A call that asks for the phase is told it in its first turn. -/
theorem turn_of_look (found : session.calls[id]? = some call) (fresh : call.stage = .fresh)
    (asks : call.request = .phase) :
    ∃ millisecond, (session.move (.resume (.call id))).calls[id]?
      = some { call with stage := .finished (.phase session.phase) millisecond } := by
  let dequeued := session.dequeue (.call id)
  obtain ⟨log, changes, mailbox, turn, growth, -⟩ := dequeued.resumeCall_turnsBy id call found
  have calls := growth.calls id
  rw [show ({ dequeued with mailbox } : Session V).calls[id]? = some call from found,
    Option.map_some] at calls
  have answered : ∃ millisecond, Call.applyAll id changes call
      = { call with stage := .finished (.phase session.phase) millisecond } := by
    cases turn with
    | @looks millisecond => exact ⟨millisecond, by simp [Call.apply]; rfl⟩
    | submits opens sends =>
        rw [asks] at sends
        cases sends
    | _ => simp_all [Call.isUnfinished, Call.awaitsReply]
  obtain ⟨millisecond, told⟩ := answered
  rw [told] at calls
  exact ⟨millisecond, calls⟩

/-- What the phase of a scene has to do with what its callers were told.

- `forward`, `reached`: the phases told so far never go back, nor does the phase itself;
- `look`: whoever asks is told the phase;
- `phase`: a scene is active until its result is stored, and has ended from then on;
- `resolved`: once a stop or a wait has returned, only a lost backend keeps a scene active;
- `refused`: once a call was refused, only a lost backend does, or one that has yet to
  notice that the scene was asked to end. -/
structure TellsPhases (session : Session V) : Prop where
  forward : session.toldPhases.Pairwise fun early late => early.rank ≤ late.rank
  reached : ∀ phase ∈ session.toldPhases, phase.rank ≤ session.phase.rank
  look : ∀ (id : Nat) (call : Call V), session.calls[id]? = some call → call.stage = .fresh →
    call.request = .phase → ∃ millisecond, (session.move (.resume (.call id))).calls[id]?
      = some { call with stage := .finished (.phase session.phase) millisecond }
  phase : session.phase = if session.control.outcome.isSome then .ended else .active
  resolved : ∀ (id : Nat) (call : Call V) answer, session.calls[id]? = some call →
    call.request = .stop ∨ call.request = .wait → .answered id answer ∈ session.happenings →
      session.phase = .ended ∨ session.backend = .lost
  refused : ∀ id, .answered id (.failed .ended) ∈ session.happenings →
    session.phase = .ended ∨ session.backend = .lost ∨ session.AboutToEnd

theorem Reachable.tellsPhases (reachable : Reachable session) : session.TellsPhases := by
  have passed := reachable.passed
  have steered := passed.steered
  have phase := passed.phase_eq
  constructor
  case forward => exact passed.told.1
  case reached => exact passed.told.2
  case look =>
    intro id call found fresh asks
    exact turn_of_look found fresh asks
  case phase => exact phase
  case resolved =>
    intro id call answer found asks answered
    obtain ⟨result, told, -⟩ := passed.answersAgree id call answer found asks answered
    cases runs : session.backendRuns with
    | true =>
        obtain ⟨unset, -, present, -⟩ := steered.running runs
        simp [result?, Control.result?, unset, present] at told
    | false =>
        rcases halted_cases runs with returned | lost
        · exact .inl (passed.phase_of_returned returned)
        · exact .inr lost
  case refused =>
    intro id answered
    have cause := passed.refusals id answered
    cases runs : session.backendRuns with
    | true =>
        obtain ⟨-, -, present, asked⟩ := steered.running runs
        rcases cause with ending | lost
        · exact .inr (.inr (reachable.aboutToEnd runs (asked ending)))
        · rw [present] at lost
          cases lost
    | false =>
        rcases halted_cases runs with returned | lost
        · exact .inl (passed.phase_of_returned returned)
        · exact .inr (.inl lost)

/-- The phases that callers and cleanups are told never go back.  The scene is active until
its result is stored.  So a caller that was refused may still be told that the scene is
active, but only until the next turn of the backend, or after the backend was lost; and so
may a caller whose stop or wait returned, but only after the backend was lost. -/
theorem phases_move_forward (reachable : Reachable session) :
    session.TellsPhases
      ∧ ∀ schedule : List (Move V), ∃ log, Ascent session (session.moves schedule) log := by
  constructor
  · exact reachable.tellsPhases
  · intro schedule
    exact Advances.ascends (session.moves_advances schedule)

/-- An abort, a fetch and a look at the phase, all before the next turn of the backend. -/
def abortThenLook : List (Move Nat) :=
  [.resume .backend, .act (.call (.abort (.foreign "enough"))), .act (.call (.fetch "n")),
    .act (.call .phase), .resume (.call 0), .resume (.call 1), .resume (.call 2)]

/-- A wait and a look at the phase after the tasks were destroyed. -/
def lossThenLook : List (Move Nat) :=
  [.resume .backend, .act .dropTasks, .act (.call .wait), .act (.call .phase),
    .resume (.call 0), .resume (.call 1)]

theorem phases_move_forward_abortThenLook :
    (plain.moves abortThenLook).TellsPhases
      ∧ ∃ log, Ascent (plain.moves abortThenLook)
        ((plain.moves abortThenLook).moves [.resume .backend]) log := by
  have forward := phases_move_forward (reachable_plain.moves abortThenLook)
  exact ⟨forward.1, forward.2 [.resume .backend]⟩

/-- A scene is active though it refused a command, and though a wait has returned. -/
theorem active_after_refusal :
    (∃ early, (plain.moves abortThenLook).happenings = early
        ++ [.answered 1 (.failed .ended), .started 2, .answered 2 (.phase .active)])
      ∧ ∃ early, (plain.moves lossThenLook).happenings = early
        ++ [.answered 0 (.failed (.backendLost "loop task dropped before completion")),
          .started 1, .answered 1 (.phase .active)] := by
  constructor
  · exact ⟨[.opened, .started 0, .aborted (.foreign "enough"), .answered 0 .done, .started 1],
      rfl⟩
  · exact ⟨[.opened, .started 0], rfl⟩

end Session

end BoundedScene
