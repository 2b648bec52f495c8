import BoundedScene.Proofs.Settling

/-!
Contract: scenes that nobody asks to stop.

Owns:
- docile requests and steps, which ask for no stop and no abort, not even by a cleanup;
- `Docile`, a scene that nothing but a deadline or the loss of its handles can end;
- that docile steps make docile scenes.

Main statement: `Passed.docile`.

Does not own: whether a deadline or the loss of the handles ends the scene.
-/

namespace BoundedScene

open BoundedScene.Supervision (Control)

/-! ## Docile steps -/

/-- A cleanup that leaves the scene to itself. -/
def Cleanup.isDocile (cleanup : Cleanup) : Bool :=
  match cleanup.act with
  | .abort _ => false
  | _ => true

section Requests

variable {V : Type}

def StoredProp.isDocile (prop : StoredProp V) : Bool :=
  prop.cleanup.all Cleanup.isDocile

def Command.isDocile : Command V → Bool
  | .store prop => prop.isDocile
  | _ => true

/-- A request for something other than a stop or an abort, without a cleanup that aborts. -/
def Request.isDocile : Request V → Bool
  | .store _ _ cleanup => cleanup.all Cleanup.isDocile
  | .stop => false
  | .abort _ => false
  | _ => true

theorem Request.isDocile_command {request : Request V} (docile : request.isDocile = true)
    {command : Command V} (sends : request.command? = some command) :
    command.isDocile = true := by
  cases request <;> cases sends <;> first | rfl | exact docile

end Requests

namespace Session

variable {V : Type} {session before after : Session V}

/-- A deed that makes no other than a docile request. -/
def Deed.isDocile : Deed V → Bool
  | .call request => request.isDocile
  | _ => true

def Step.isDocile : Step V → Bool
  | .deeds done => done.all Deed.isDocile
  | .elapse _ => true

/-! ## The requests of a scene -/

/-- What was asked of the scene, in the order of the calls. -/
def requests (session : Session V) : List (Request V) :=
  session.calls.map Call.request

theorem requests_of_calls {changes : List (CallChange V)}
    (calls : ∀ id : Nat, after.calls[id]? = before.calls[id]?.map (Call.applyAll id changes)) :
    after.requests = before.requests := by
  refine List.ext_getElem? fun id => ?_
  unfold requests
  rw [List.getElem?_map, List.getElem?_map, calls, Option.map_map]
  congr 1
  funext call
  exact Call.applyAll_request changes call

theorem requests_of_evolves {log : List (Happening V)} {changes : List (CallChange V)}
    {events : List Event} {earlier : Session V}
    (growth : Evolves log changes events earlier after) (calls : earlier.calls = before.calls) :
    after.requests = before.requests :=
  requests_of_calls fun id => calls ▸ growth.calls id

theorem requests_dropTasks (session : Session V) :
    session.dropTasks.requests = session.requests := by
  unfold requests dropTasks
  rw [List.map_map]
  refine List.map_congr_left fun call _ => ?_
  show (if call.isUnfinished then { call with stage := .dropped } else call : Call V).request = _
  split <;> rfl

/-- In a small step the scene is asked for at most one thing more. -/
theorem Advance.requests (step : Advance before after) : before.requests <+: after.requests := by
  have kept {after : Session V} (same : after.requests = before.requests) :
      before.requests <+: after.requests :=
    same ▸ List.prefix_rfl
  cases step with
  | drifts growth => exact kept (requests_of_evolves growth rfl)
  | makes request =>
      have made : (before.makeCall request).requests = before.requests ++ [request] :=
        List.map_append ..
      exact made ▸ List.prefix_append ..
  | turns found =>
      obtain ⟨log, changes, mailbox, turn, growth, -⟩ := before.resumeCall_turnsBy _ _ found
      exact kept (requests_of_evolves growth rfl)
  | cancels found unfinished =>
      exact kept (requests_of_evolves (before.cancel_evolves found unfinished).1 rfl)
  | opens => exact kept (requests_of_evolves before.openUp_evolves rfl)
  | processes serving =>
      obtain ⟨backend, -, growth⟩ := serveOne_evolves serving _ _
      exact kept (requests_of_evolves growth rfl)
  | ends serving cause => exact kept (requests_of_evolves cause.evolves rfl)
  | loses => exact kept before.requests_dropTasks

/-! ## Docile scenes -/

/-- No call and no prop would make the scene stop, and nobody has asked it to. -/
structure Docile (session : Session V) : Prop where
  requests : ∀ request ∈ session.requests, request.isDocile = true
  props : ∀ prop ∈ session.props.props, prop.isDocile = true
  unasked : session.happenings.any Happening.asksToStop = false

theorem asksToStop_cleanupLog (phase : Phase) {prop : StoredProp V}
    (docile : prop.isDocile = true) :
    (cleanupLog phase prop).any Happening.asksToStop = false := by
  unfold StoredProp.isDocile at docile
  cases bound : prop.cleanup with
  | none => simp [cleanupLog, bound]
  | some cleanup =>
      rw [bound, Option.all_some] at docile
      unfold Cleanup.isDocile at docile
      cases act : cleanup.act with
      | abort cause =>
          rw [act] at docile
          cases docile
      | _ => simp [cleanupLog, bound, act, Happening.asksToStop]

/-- A command in the mailbox is what its caller asked for. -/
theorem Passed.queued (passed : Passed session) (runs : session.backendRuns = true)
    {envelope : Envelope V} (queued : envelope ∈ session.mailbox.queued) :
    ∃ call, session.calls[envelope.caller]? = some call
      ∧ call.request.command? = some envelope.command := by
  have entered := (passed.chronicle.pending runs queued).1
  obtain ⟨call, found, story⟩ := passed.chronicle.story_of_mem entered
  exact ⟨call, found, story.sends_of_entered entered⟩

theorem mem_requests {id : Nat} {call : Call V} (found : session.calls[id]? = some call) :
    call.request ∈ session.requests :=
  List.mem_map_of_mem (List.mem_of_getElem? found)

theorem Docile.queued (docile : session.Docile) (passed : Passed session)
    (runs : session.backendRuns = true) {envelope : Envelope V}
    (queued : envelope ∈ session.mailbox.queued) : envelope.command.isDocile = true := by
  obtain ⟨call, found, sends⟩ := passed.queued runs queued
  exact Request.isDocile_command (docile.requests _ (mem_requests found)) sends

theorem queued_of_take? {mailbox : Mailbox (Envelope V)} {envelope : Envelope V}
    {rest : Mailbox (Envelope V) × Option Nat} (taken : mailbox.take? = some (envelope, rest)) :
    envelope ∈ mailbox.queued := by
  unfold Mailbox.take? at taken
  split at taken
  · cases taken
  case h_2 first later queue =>
    cases taken
    rw [queue]
    exact List.mem_cons_self ..

/-- A docile command leaves only docile props behind. -/
theorem isDocile_of_mem_effect (docile : ∀ prop ∈ session.props.props, prop.isDocile = true)
    {envelope : Envelope V} (own : envelope.command.isDocile = true) :
    ∀ prop ∈ (session.effect envelope.caller envelope.command).props.props,
      prop.isDocile = true := by
  intro prop member
  rw [effect_props] at member
  unfold Processed.keep at member
  split at member
  case h_1 stored _ command _ =>
    replace command : envelope.command = .store stored := command
    rw [command] at own
    rcases List.mem_append.mp member with old | new
    · exact docile prop old
    · exact List.mem_singleton.mp new ▸ own
  case h_2 => exact docile prop (List.mem_filter.mp member).1
  case h_3 => exact docile prop member

theorem asksToStop_effect (docile : ∀ prop ∈ session.props.props, prop.isDocile = true)
    (caller : Nat) (command : Command V) :
    (session.effect caller command).log.any Happening.asksToStop = false := by
  cases command with
  | dispose key =>
      unfold effect
      dsimp only
      split
      · rfl
      case h_2 prop props removed =>
        have stored : prop ∈ session.props.props := by
          unfold PropTable.remove at removed
          split at removed
          case h_1 found =>
            cases removed
            exact List.mem_of_find?_eq_some found
          case h_2 => cases removed
        exact asksToStop_cleanupLog _ (docile prop stored)
  | store prop => unfold effect; dsimp only; split <;> rfl
  | signal topic => unfold effect; dsimp only; split <;> rfl
  | _ => rfl

theorem asksToStop_teardownLog (docile : ∀ prop ∈ session.props.props, prop.isDocile = true) :
    session.teardownLog.any Happening.asksToStop = false := by
  unfold teardownLog
  rw [List.any_flatMap, List.any_eq_false]
  intro prop member
  have stored := (session.visiting.perm _).subset member
  simpa using asksToStop_cleanupLog _ (docile prop stored)

/-- A docile call does not ask the scene to stop. -/
theorem CallTurn.unasked {id : Nat} {call : Call V} {log : List (Happening V)}
    {changes : List (CallChange V)} {mailbox : Mailbox (Envelope V)}
    (turn : CallTurn before id call log changes mailbox)
    (docile : call.request.isDocile = true) : log.any Happening.asksToStop = false := by
  have told {control : Control SceneError} {request : Request V} {log : List (Happening V)}
      {stage : Stage V} (turn : ResultTurn control id request log stage) :
      log.any Happening.asksToStop = false := by
    cases turn <;> rfl
  have behind {first : Happening V} {log : List (Happening V)}
      (calm : log.any Happening.asksToStop = false) (harmless : first.asksToStop = false) :
      (first :: log).any Happening.asksToStop = false := by
    rw [List.any_cons, harmless, calm]
    rfl
  have heard {topic : String} {deadline : Option Nat} {log : List (Happening V)} {stage : Stage V}
      (turn : SignalTurn before.control before.clock id call topic deadline log stage) :
      log.any Happening.asksToStop = false := by
    cases turn with
    | overtaken lapsed turn => exact behind (told turn) rfl
    | _ => rfl
  cases turn with
  | rests => rfl
  | strays => rfl
  | stops fresh asks turn =>
      rw [asks] at docile
      cases docile
  | aborts fresh asks =>
      rw [asks] at docile
      cases docile
  | waits fresh asks turn => exact behind (told turn) rfl
  | looks => rfl
  | submits opens sends turn =>
      rw [List.any_append, Bool.or_eq_false_iff]
      constructor
      · generalize call.stage = began at opens
        cases opens <;> rfl
      · cases turn <;> rfl
  | replied waiting filled turn =>
      cases turn with
      | answered => rfl
      | registered deadline asks accepted turn => exact behind (heard turn) rfl
  | overtaken waiting lapsed turn => exact behind (told turn) rfl
  | listens waiting asks turn => exact heard turn
  | asks waiting turn => exact told turn

/-- A scene of which nothing but docile things were asked is docile. -/
theorem Passed.docile (passed : Passed session)
    (requests : ∀ request ∈ session.requests, request.isDocile = true) : session.Docile := by
  induction passed with
  | initial initial =>
      refine ⟨requests, ?_, ?_⟩
      · simp [initial.props]
      · simp [happenings, initial.journal]
  | @advance before after passed step inductionHypothesis =>
      have docile : before.Docile := inductionHypothesis fun request member =>
        requests request (step.requests.subset member)
      have kept {log : List (Happening V)} (props : after.props = before.props)
          (happenings : after.happenings = before.happenings ++ log)
          (unasked : log.any Happening.asksToStop = false) : after.Docile := by
        refine ⟨requests, props ▸ docile.props, ?_⟩
        rw [happenings, List.any_append, docile.unasked, unasked]
        rfl
      cases step with
      | drifts growth => exact kept growth.props growth.happenings rfl
      | makes request =>
          have growth := before.makeCall_evolves request
          exact kept growth.props growth.happenings rfl
      | turns found =>
          obtain ⟨log, changes, mailbox, turn, growth, -⟩ := before.resumeCall_turnsBy _ _ found
          exact kept growth.props growth.happenings
            (turn.unasked (docile.requests _ (mem_requests found)))
      | cancels found unfinished =>
          have growth := (before.cancel_evolves found unfinished).1
          exact kept growth.props growth.happenings rfl
      | opens => exact kept before.openUp_evolves.props before.openUp_evolves.happenings rfl
      | @processes envelope rest serving unstopped undue taken =>
          obtain ⟨backend, -, growth⟩ := serveOne_evolves serving envelope rest
          have own := docile.queued passed serving.runs (queued_of_take? taken)
          refine ⟨requests, ?_, ?_⟩
          · rw [growth.props]
            exact isDocile_of_mem_effect docile.props own
          · have happenings : _ = before.happenings ++ _ := growth.happenings
            rw [happenings, List.any_append, docile.unasked, serveLog, List.any_append,
              asksToStop_effect docile.props]
            rfl
      | @ends log heralds error after serving cause =>
          have growth := cause.evolves
          refine ⟨requests, ?_, ?_⟩
          · rw [growth.props]
            exact List.forall_mem_nil _
          · have happenings : _ = before.happenings ++ _ := growth.happenings
            have heralded : log.any Happening.asksToStop = false := by cases cause <;> rfl
            rw [happenings, List.any_append, docile.unasked, endLog, List.any_append,
              List.any_append, heralded, asksToStop_teardownLog docile.props]
            rfl
      | loses => exact ⟨requests, List.forall_mem_nil _, docile.unasked⟩

/-- Nothing has been asked of the backend of a docile scene as long as it runs. -/
theorem Docile.control (docile : session.Docile) (steered : session.Steered)
    (runs : session.backendRuns = true) : session.control = {} := by
  have unstopped : session.control.stopRequested = false := by
    rw [steered.asked runs]
    exact docile.unasked
  have ongoing := steered.ongoing runs unstopped
  have unkilled := steered.unkilled runs unstopped
  obtain ⟨unset, unconcluded, present, -⟩ := steered.running runs
  cases control : session.control
  simp_all

/-! ## Docile runs -/

/-- No call was moved from its stage and no mailbox was opened. -/
def Undisturbed (before after : Session V) : Prop :=
  ∃ changes : List (CallChange V),
    (∀ id : Nat, after.calls[id]? = before.calls[id]?.map (Call.applyAll id changes))
      ∧ (∀ id, ∀ change ∈ changes, change.moved? ≠ some id)
      ∧ (before.mailbox.closed = true → after.mailbox.closed = true)

namespace Undisturbed

theorem refl (session : Session V) : Undisturbed session session :=
  ⟨[], fun id => by cases session.calls[id]? <;> rfl, by simp, id⟩

theorem trans {middle : Session V} (first : Undisturbed before middle)
    (second : Undisturbed middle after) : Undisturbed before after := by
  obtain ⟨early, earlyCalls, earlyUnmoved, earlyClosed⟩ := first
  obtain ⟨late, lateCalls, lateUnmoved, lateClosed⟩ := second
  refine ⟨early ++ late, fun id => ?_, fun id change member => ?_, lateClosed ∘ earlyClosed⟩
  · rw [lateCalls, earlyCalls, Option.map_map]
    congr 1
    funext call
    exact (Call.applyAll_append id early late call).symm
  · exact (List.mem_append.mp member).elim (earlyUnmoved id change) (lateUnmoved id change)

theorem of_evolves {log : List (Happening V)} {changes : List (CallChange V)}
    {events : List Event} {earlier : Session V} (growth : Evolves log changes events earlier after)
    (calls : earlier.calls = before.calls)
    (unmoved : ∀ id, ∀ change ∈ changes, change.moved? ≠ some id)
    (closed : before.mailbox.closed = true → earlier.mailbox.closed = true) :
    Undisturbed before after :=
  ⟨changes, fun id => calls ▸ growth.calls id, unmoved, fun shut =>
    (congrArg Mailbox.closed growth.mailbox).trans (closed shut)⟩

theorem requests (unmoved : Undisturbed before after) : after.requests = before.requests :=
  have ⟨_, calls, _⟩ := unmoved
  requests_of_calls calls

end Undisturbed

theorem closed_grant (mailbox : Mailbox (Envelope V)) :
    mailbox.grant.1.closed = mailbox.closed := by
  unfold Mailbox.grant
  split
  · rfl
  · split <;> rfl

theorem closed_of_take? {mailbox : Mailbox (Envelope V)} {envelope : Envelope V}
    {rest : Mailbox (Envelope V) × Option Nat} (taken : mailbox.take? = some (envelope, rest)) :
    rest.1.closed = mailbox.closed := by
  unfold Mailbox.take? at taken
  split at taken
  · cases taken
  · cases taken
    exact closed_grant _

theorem serve_undisturbed (commands : Nat) (serving : session.isServing) :
    Undisturbed session (session.serve commands) :=
  serve_induction (Undisturbed session)
    (fun {later envelope rest} held serving _ _ taken => by
      obtain ⟨backend, -, growth⟩ := serveOne_evolves serving envelope rest
      exact held.trans (.of_evolves growth rfl (later.unmoved_serveChanges envelope)
        (closed_of_take? taken).trans))
    (fun {later _ _ _ _} held _ cause =>
      held.trans (.of_evolves cause.evolves rfl later.unmoved_endChanges fun _ => rfl))
    commands serving (.refl session)

theorem resumeBackend_undisturbed (session : Session V) :
    Undisturbed session session.resumeBackend := by
  unfold resumeBackend
  split
  case h_1 fresh =>
    have opened : Undisturbed session session.openUp :=
      .of_evolves session.openUp_evolves rfl (by simp) id
    exact opened.trans (serve_undisturbed _ ⟨_, _, session.openUp_evolves.backend⟩)
  case h_2 absolute inactivity backend => exact serve_undisturbed _ ⟨absolute, inactivity, backend⟩
  case h_3 => exact .refl session

theorem requests_resume (task : SceneTask) (session : Session V) :
    (resume task session).requests = session.requests := by
  cases task with
  | backend => exact session.resumeBackend_undisturbed.requests
  | delivery task => rfl
  | call id =>
      show (session.resumeCall id).requests = _
      cases found : session.calls[id]? with
      | none =>
          unfold resumeCall
          rw [found]
      | some call =>
          obtain ⟨log, changes, mailbox, turn, growth, -⟩ := session.resumeCall_turnsBy _ _ found
          exact requests_of_evolves growth rfl

/-- Nothing is asked of a scene while it is settled or time passes. -/
theorem keeps_requests (requests : List (Request V)) :
    Turns.Keeps fun session : Session V => session.requests = requests where
  resume held _ := (requests_resume _ _).trans held
  reach _ held := held

theorem docile_act {deed : Deed V} (own : deed.isDocile = true)
    (docile : ∀ request ∈ session.requests, request.isDocile = true) :
    ∀ request ∈ (session.act deed).requests, request.isDocile = true := by
  have kept {after : Session V} (same : after.requests = session.requests) :
      ∀ request ∈ after.requests, request.isDocile = true :=
    same ▸ docile
  cases deed with
  | call asked =>
      have made : (session.act (.call asked)).requests = session.requests ++ [asked] :=
        List.map_append ..
      intro request member
      rw [made, List.mem_append, List.mem_singleton] at member
      rcases member with old | rfl
      · exact docile request old
      · exact own
  | cancel id =>
      apply kept
      show (session.cancel id).requests = _
      cases found : session.calls[id]? with
      | none =>
          unfold cancel
          rw [found]
      | some call =>
          cases unfinished : call.isUnfinished with
          | true => exact requests_of_evolves (session.cancel_evolves found unfinished).1 rfl
          | false =>
              unfold cancel
              simp only [found, unfinished]
              rfl
  | clone => exact kept rfl
  | drop handle => exact kept (requests_of_evolves (noteHandles_evolves _) rfl)
  | release lane count => exact kept rfl
  | dropTasks => exact kept session.requests_dropTasks

theorem docile_actAll {deeds : List (Deed V)} (own : deeds.all Deed.isDocile = true)
    (docile : ∀ request ∈ session.requests, request.isDocile = true) :
    ∀ request ∈ (session.actAll deeds).requests, request.isDocile = true := by
  unfold actAll
  induction deeds generalizing session with
  | nil => exact docile
  | cons first rest inductionHypothesis =>
      rw [List.all_cons, Bool.and_eq_true] at own
      exact inductionHypothesis own.2 (docile_act own.1 docile)

end Session

end BoundedScene
