import BoundedScene.Proofs.Absorption

/-!
Contract: the events that the backend of a scene publishes, from first to last.

Owns:
- `outcomeEvent`, the event that a processed command calls for, and the events of the
  end, each with all its details;
- `Fits`, which errors a command can come to;
- the number of props left at the end, counted from the commands;
- which errors the last event gives away.

Main statements: `event_stream` and `farewell_reason`.

Does not own: how events reach the subscribers.
-/

namespace BoundedScene

/-! ## Commands and their events -/

namespace Command

variable {V : Type}

/-- The prop that a command is about. -/
def key? : Command V → Option String
  | .store prop => some prop.key
  | .fetch key => some key
  | .dispose key => some key
  | _ => none

/-- The topic that a command is about. -/
def topic? : Command V → Option String
  | .signal topic => some topic
  | .subscribe topic => some topic
  | _ => none

end Command

/-- The event that the outcome of a command calls for, when it woke `woken` waiters:
one of its own kind for a success, a failed cleanup for a dispose whose cleanup failed,
and a rejection under the error's label for every other error. -/
def outcomeEvent {V : Type} (command : Command V) (response : Response V) (woken : Nat) :
    Event :=
  match command, response with
  | .store prop, .ok _ => { kind := .propStored, key := some prop.key }
  | .fetch key, .ok _ => { kind := .propFetched, key := some key }
  | .dispose key, .ok _ => { kind := .propDisposed, key := some key }
  | .signal topic, .ok _ =>
      { kind := .signalDelivered, topic := some topic, count := some (Event.saturate woken) }
  | .subscribe topic, .ok _ => { kind := .waiterRegistered, topic := some topic }
  | .dispose key, .error (.cleanupFailed _ cause) =>
      { kind := .cleanupFailed, key := some key, reason := some cause.message }
  | command, .error error =>
      { kind := .commandRejected, key := command.key?, topic := command.topic?
        reason := some error.label }

/-- The responses that a command can come to: its errors name its own key or topic. -/
inductive Fits {V : Type} : Command V → Response V → Prop where
  | succeeds (command : Command V) (reply : Reply V) : Fits command (.ok reply)
  | present (prop : StoredProp V) : Fits (.store prop) (.error (.propAlreadyExists prop.key))
  | unfetched (key : String) : Fits (.fetch key) (.error (.propNotFound key))
  | undisposed (key : String) : Fits (.dispose key) (.error (.propNotFound key))
  | uncleaned (key : String) (cause : Cause) :
      Fits (.dispose key) (.error (.cleanupFailed key cause))
  | unheard (topic : String) : Fits (.signal topic) (.error (.noSubscriber topic))

namespace Session

variable {V : Type} {session before after : Session V}

theorem announcement_of_fits {command : Command V} {response : Response V}
    (fits : Fits command response) (woken : List Nat) :
    announcement command response woken = outcomeEvent command response woken.length := by
  cases fits with
  | succeeds command reply => cases command <;> rfl
  | _ => rfl

/-- The failure of a removed prop's cleanup names its key. -/
theorem cleanupFailure?_key {prop : StoredProp V} {error : SceneError}
    (failed : cleanupFailure? prop = some error) :
    ∃ cause, error = .cleanupFailed prop.key cause := by
  unfold cleanupFailure? Cleanup.failure? at failed
  obtain ⟨cleanup, -, failure⟩ := Option.bind_eq_some_iff.mp failed
  obtain ⟨cause, -, rfl⟩ := Option.map_eq_some_iff.mp failure
  exact ⟨cause, rfl⟩

theorem fits_effect (session : Session V) (caller : Nat) (command : Command V) :
    Fits command (session.effect caller command).response := by
  cases command with
  | store prop =>
      cases found : session.props.find? prop.key with
      | none =>
          simp only [effect, PropTable.store, found]
          exact .succeeds _ _
      | some _ =>
          simp only [effect, PropTable.store, found]
          exact .present prop
  | fetch key =>
      cases found : session.props.find? key with
      | none =>
          simp only [effect, PropTable.fetch, found]
          exact .unfetched key
      | some prop =>
          simp only [effect, PropTable.fetch, found]
          exact .succeeds _ _
  | dispose key =>
      cases found : session.props.find? key with
      | none =>
          simp only [effect, PropTable.remove, found]
          exact .undisposed key
      | some prop =>
          simp only [effect, PropTable.remove, found]
          split
          case h_1 error failed =>
            obtain ⟨cause, rfl⟩ := cleanupFailure?_key failed
            rw [PropTable.key_of_find? found]
            exact .uncleaned key cause
          case h_2 => exact .succeeds _ _
  | signal topic =>
      unfold effect
      dsimp only
      split
      case h_1 error subscriptions raised =>
        have unheard : error = .noSubscriber topic := by
          unfold Subscriptions.signal at raised
          dsimp only at raised
          split at raised <;> cases raised
          rfl
        rw [unheard]
        exact .unheard topic
      case h_2 => exact .succeeds _ _
  | subscribe topic => exact .succeeds _ _

/-! ## The events of the start and of the end -/

/-- The first event of a scene, with its deadlines. -/
def startNotice (session : Session V) : Event where
  kind := .sceneStarted
  timeoutMilliseconds := session.absolute.map fun after => Event.saturate after.milliseconds
  inactivityMilliseconds := session.inactivity.map fun after => Event.saturate after.milliseconds

/-- The event that tells which deadline ended a scene. -/
def timeoutNotice (deadline : TimeoutKind × Span) : Event where
  kind := .timeoutHit
  reason := some deadline.1.label
  timeoutMilliseconds := some (Event.saturate deadline.2.milliseconds)

/-- The event that tells of a cleanup that failed during the teardown. -/
def failureNotice? (prop : StoredProp V) : Option Event :=
  (prop.cleanup.bind fun cleanup => cleanup.outcome.cause?).map fun cause =>
    { kind := .cleanupFailed, key := some prop.key, reason := some cause.message }

theorem startedEvent_eq (session : Session V) : session.startedEvent = session.startNotice := by
  unfold startedEvent startNotice
  cases session.absolute <;> cases session.inactivity <;> rfl

theorem failureNotices_eq (props : List (StoredProp V)) :
    (props.filterMap cleanupFailure?).map cleanupFailedEvent = props.filterMap failureNotice? := by
  rw [List.map_filterMap]
  congr 1
  funext prop
  unfold cleanupFailure? failureNotice? Cleanup.failure?
  cases prop.cleanup with
  | none => rfl
  | some cleanup =>
      dsimp only [Option.bind_some]
      cases cleanup.outcome.cause? <;> rfl

/-! ## What is left at the end -/

end Session

namespace Processed

variable {V : Type}

/-- A store that put its prop into the table. -/
def accepts (entry : Processed V) : Bool :=
  match entry.command, entry.response with
  | .store _, .ok _ => true
  | _, _ => false

/-- A dispose that took its prop out of the table, whatever came of the cleanup. -/
def removes (entry : Processed V) : Bool :=
  match entry.command, entry.response with
  | .dispose _, .ok _ => true
  | .dispose _, .error (.cleanupFailed _ _) => true
  | _, _ => false

end Processed

namespace Session

variable {V : Type} {session before after : Session V}

/-- A command adds a prop, removes one, or leaves their number as it is. -/
theorem effect_size (session : Session V) (envelope : Envelope V)
    (distinct : (session.props.props.map StoredProp.key).Nodup) :
    (session.effect envelope.caller envelope.command).props.props.length
        + [session.entryFor envelope].countP Processed.removes
      = session.props.props.length + [session.entryFor envelope].countP Processed.accepts := by
  have single (test : Processed V → Bool) :
      [session.entryFor envelope].countP test
        = if test (session.entryFor envelope) then 1 else 0 := by
    simp [List.countP_cons]
  rw [single, single]
  unfold entryFor Processed.removes Processed.accepts
  cases command : envelope.command with
  | store prop =>
      cases found : session.props.find? prop.key <;> simp [effect, PropTable.store, found]
  | fetch key => simp [effect]
  | dispose key =>
      cases found : session.props.find? key with
      | none => simp [effect, PropTable.remove, found]
      | some prop =>
          have split := (PropTable.perm_cons_filter distinct found).length_eq
          rw [List.length_cons] at split
          cases failed : cleanupFailure? prop with
          | none =>
              simp only [effect, PropTable.remove, found, PropTable.erase, failed]
              exact split.symm
          | some error =>
              obtain ⟨cause, rfl⟩ := cleanupFailure?_key failed
              simp only [effect, PropTable.remove, found, PropTable.erase, failed]
              exact split.symm
  | signal topic =>
      unfold effect
      dsimp only
      split <;> rfl
  | subscribe topic => simp [effect]

/-- A step processes one command, or none. -/
theorem Advance.ledger (step : Advance before after) :
    after.ledger = before.ledger
      ∨ ∃ envelope, before.isServing
        ∧ after.ledger = before.ledger ++ [before.entryFor envelope] := by
  cases step.course with
  | calm calm happenings =>
      refine .inl ?_
      rw [ledger_of_happenings before happenings, Happening.processed_of_calm calm,
        List.append_nil]
  | @serves envelope rest serving unstopped taken served =>
      obtain ⟨backend, -, growth⟩ := serveOne_evolves serving envelope rest
      refine .inr ⟨envelope, serving, ?_⟩
      rw [served, ledger_of_happenings before growth.happenings, before.processed_serveLog]
  | ends serving cause => exact .inl cause.ledger
  | loses lost =>
      subst lost
      exact .inl rfl

theorem IsInitial.ledger (initial : session.IsInitial) : session.ledger = [] := by
  simp [Session.ledger, happenings, initial.journal]

/-- The props left, together with those removed, are as many as were accepted. -/
theorem Passed.tally (passed : Passed session) :
    (Processed.leftover session.ledger).length + session.ledger.countP Processed.removes
      = session.ledger.countP Processed.accepts := by
  induction passed with
  | initial initial =>
      rw [initial.ledger]
      rfl
  | @advance before after passed step inductionHypothesis =>
      rcases step.ledger with same | ⟨envelope, serving, longer⟩
      · rw [same]
        exact inductionHypothesis
      · have table := passed.holding.kept serving.runs
        have size := before.effect_size envelope passed.holding.distinct
        have next : Processed.leftover (before.ledger ++ [before.entryFor envelope])
            = (before.effect envelope.caller envelope.command).props.props := by
          rw [before.effect_props envelope, table]
          simp [Processed.leftover]
        rw [table] at size
        rw [longer, next, List.countP_append, List.countP_append]
        omega

/-- Every command that was processed came to a response that fits it. -/
theorem Passed.fits (passed : Passed session) :
    ∀ entry ∈ session.ledger, Fits entry.command entry.response := by
  induction passed with
  | initial initial =>
      rw [initial.ledger]
      exact List.forall_mem_nil _
  | @advance before after passed step inductionHypothesis =>
      rcases step.ledger with same | ⟨envelope, serving, longer⟩
      · rw [same]
        exact inductionHypothesis
      · intro entry member
        rw [longer, List.mem_append, List.mem_singleton] at member
        rcases member with old | rfl
        · exact inductionHypothesis entry old
        · exact before.fits_effect envelope.caller envelope.command

/-! ## The frame of the stream -/

/-- A backend that serves or returned has been opened; a deadline at which it concluded
is the one that fired; and every command was processed before it returned. -/
structure Framed (session : Session V) : Prop where
  opened : session.isServing ∨ session.backend = .returned →
    session.happenings.any Happening.isOpening = true
  fired : session.backend = .returned → ∀ deadline,
    .concluded (some deadline) ∈ session.happenings → session.fired? = some deadline
  served : session.backend = .returned →
    session.history.filterMap Happening.processed? = session.ledger

theorem IsInitial.framed (initial : session.IsInitial) : session.Framed where
  opened begun := by
    rcases begun with ⟨absolute, inactivity, serving⟩ | returned
    · rw [initial.backend] at serving
      cases serving
    · rw [initial.backend] at returned
      cases returned
  fired returned := by
    rw [initial.backend] at returned
    cases returned
  served returned := by
    rw [initial.backend] at returned
    cases returned

/-- A running backend has not concluded at a deadline. -/
theorem Steered.undated (steered : session.Steered) (runs : session.backendRuns = true)
    (deadline : TimeoutKind × Span) : .concluded (some deadline) ∉ session.happenings := by
  have unconcluded := (steered.running runs).2.1
  rw [steered.control_of_runs runs] at unconcluded
  intro member
  cases deadline?_of_unconcluded unconcluded _ member

/-- A step that concludes nothing and leaves the backend as it is. -/
theorem Framed.proceed (framed : before.Framed) (judged : before.Judged)
    {log : List (Happening V)} (calm : ∀ happening ∈ log, happening.isCalm = true)
    (happenings : after.happenings = before.happenings ++ log)
    (backend : after.backend = before.backend) : after.Framed where
  opened begun := by
    have earlier : before.isServing ∨ before.backend = .returned := by
      rwa [isServing, ← backend]
    rw [happenings, List.any_append, framed.opened earlier]
    rfl
  fired returned deadline member := by
    have ended := backend ▸ returned
    rw [happenings, List.mem_append] at member
    rcases member with old | new
    · unfold fired?
      rw [history_append happenings (judged.ended ended).1]
      exact framed.fired ended deadline old
    · cases calm _ new
  served returned := by
    have ended := backend ▸ returned
    rw [history_append happenings (judged.ended ended).1, framed.served ended,
      ledger_of_happenings before happenings, Happening.processed_of_calm calm, List.append_nil]

theorem Framed.finish (framed : before.Framed) (steered : before.Steered)
    (serving : before.isServing) {log : List (Happening V)} {heralds : List Event}
    {error : Option SceneError} (cause : EndCause before log heralds error after) :
    after.Framed where
  opened _ := by
    rw [cause.happenings, List.any_append, framed.opened (.inl serving)]
    rfl
  fired _ deadline member := by
    have named : error = after.fired?.map fun deadline => .timeout deadline.1 deadline.2 :=
      error_of_end steered serving cause
    rw [cause.happenings, endLog] at member
    simp only [List.mem_append, List.mem_singleton] at member
    rcases member with old | (concluding | torn) | last
    · exact absurd old (steered.undated serving.runs deadline)
    · cases cause with
      | stopped => cases concluding
      | abandoned => cases List.mem_singleton.mp concluding
      | timedOut unstopped due =>
          cases List.mem_singleton.mp concluding
          obtain ⟨fired, set, same⟩ := Option.map_eq_some_iff.mp named.symm
          cases same
          exact set
    · cases isByCleanup_of_mem_teardownLog torn
    · cases last
  served _ := by
    rw [processed_history_of_end steered serving cause, cause.ledger]

theorem Framed.advance (framed : before.Framed) (steered : before.Steered)
    (judged : before.Judged) (step : Advance before after) : after.Framed := by
  cases step with
  | drifts growth =>
      exact framed.proceed judged (by simp) growth.happenings growth.backend
  | makes request =>
      have growth := before.makeCall_evolves request
      exact framed.proceed judged (by simp) growth.happenings growth.backend
  | turns found =>
      obtain ⟨log, changes, mailbox, turn, growth, -⟩ := before.resumeCall_turnsBy _ _ found
      exact framed.proceed judged (fun happening member => (turn.isByCall happening member).calm)
        growth.happenings growth.backend
  | cancels found unfinished =>
      have growth := (before.cancel_evolves found unfinished).1
      exact framed.proceed judged (by simp [Happening.isCalm]) growth.happenings growth.backend
  | opens fresh =>
      have growth := before.openUp_evolves
      have serving : before.openUp.isServing := ⟨_, _, growth.backend⟩
      refine ⟨fun _ => ?_, fun returned => absurd serving (not_serving_of_returned returned),
        fun returned => absurd serving (not_serving_of_returned returned)⟩
      rw [growth.happenings, List.any_append]
      simp [Happening.isOpening]
  | @processes envelope rest serving unstopped undue taken =>
      obtain ⟨backend, -, growth⟩ := serveOne_evolves serving envelope rest
      have still := serveOne_isServing serving envelope rest
      refine ⟨fun _ => ?_, fun returned => absurd still (not_serving_of_returned returned),
        fun returned => absurd still (not_serving_of_returned returned)⟩
      rw [growth.happenings]
      show (before.happenings ++ _).any _ = true
      rw [List.any_append, framed.opened (.inl serving)]
      rfl
  | ends serving cause => exact framed.finish steered serving cause
  | loses =>
      refine ⟨fun begun => ?_,
        fun returned => framed.fired (backend_dropTasks_returned.mp returned),
        fun returned => framed.served (backend_dropTasks_returned.mp returned)⟩
      rcases begun with serving | returned
      · have runs := serving.runs
        rw [backendRuns_dropTasks] at runs
        cases runs
      · exact framed.opened (.inr (backend_dropTasks_returned.mp returned))

theorem Passed.framed (passed : Passed session) : session.Framed := by
  induction passed with
  | initial initial => exact initial.framed
  | advance passed step inductionHypothesis =>
      exact inductionHypothesis.advance passed.steered passed.judged step

/-! ## Who is woken -/

/-- The callers that a signal took are those woken by the commands. -/
theorem taken_foldl (inputs : List (Input V)) (reference : Reference V) :
    (inputs.foldl Reference.next reference).taken
      = reference.taken ++ (reference.outcomesFrom inputs).flatMap fun deal => deal.2.woken := by
  induction inputs generalizing reference with
  | nil => simp [Reference.outcomesFrom]
  | cons input rest inductionHypothesis =>
      rw [List.foldl_cons, inductionHypothesis]
      cases input with
      | command envelope =>
          rw [Reference.next, Reference.taken_perform, Reference.outcomesFrom, List.flatMap_cons,
            List.append_assoc]
          rfl
      | departure caller => rfl

/-- The callers woken so far, command by command. -/
def woken (session : Session V) : List Nat :=
  (Reference.outcomes session.inputs).flatMap fun deal => deal.2.woken

theorem taken_reference (session : Session V) : session.reference.taken = session.woken :=
  (taken_foldl session.inputs {}).trans (List.nil_append _)

/-! ## The event goes before the reply -/

/-- While an envelope is processed there is a moment at which the event of its outcome is
on the bus and no reply has changed; the rest is to reply to its caller. -/
def AnnouncesFirst (session : Session V) (envelope : Envelope V) : Prop :=
  ∃ announced : Session V,
    announced.backendEvents = session.backendEvents
        ++ [outcomeEvent envelope.command (session.entryFor envelope).response
          (session.effect envelope.caller envelope.command).woken.length]
      ∧ (∀ id : Nat, announced.calls[id]?.map Call.reply = session.calls[id]?.map Call.reply)
      ∧ session.process envelope
        = announced.respond envelope.caller (.filled (session.entryFor envelope).response)

theorem reply_notified (id : Nat) (targets : List Nat) (slot : SignalSlot) (call : Call V) :
    (Call.applyAll id (targets.map fun target => .signal target slot) call).reply
      = call.reply := by
  induction targets generalizing call with
  | nil => rfl
  | cons first rest inductionHypothesis =>
      rw [List.map_cons, Call.applyAll_cons, inductionHypothesis]
      unfold Call.apply
      dsimp only
      split <;> rfl

theorem announcesFirst (session : Session V) (envelope : Envelope V) :
    session.AnnouncesFirst envelope := by
  obtain ⟨response, carried⟩ := session.execute_evolves envelope.caller envelope.command
  have noted := carried.trans (record_evolves _ (.processed (session.entryFor envelope)) rfl)
  rw [response, announcement_of_fits (session.fits_effect _ _)] at noted
  simp only [List.append_nil] at noted
  refine ⟨_, noted.events, fun id => ?_, ?_⟩
  · rw [noted.calls, Option.map_map]
    exact congrArg (Option.map · session.calls[id]?) (funext (reply_notified id _ _))
  · unfold process entryFor
    rw [← response]

/-! ## The main statement -/

/-- The events of the commands processed so far, by what they came to. -/
def outcomeEvents (session : Session V) : List Event :=
  (Reference.outcomes session.inputs).map fun deal =>
    outcomeEvent deal.1.command deal.2.response deal.2.woken.length

theorem announcements_eq (passed : Passed session) :
    announcements (Reference.outcomes session.inputs) = session.outcomeEvents := by
  refine List.map_congr_left fun deal member => ?_
  have entered : Outcome.entry deal ∈ session.ledger := by
    rw [passed.accounted.ledger]
    exact List.mem_map_of_mem member
  exact announcement_of_fits (passed.fits _ entered) deal.2.woken

/-- At every moment the bus has one event for each command processed, in their order, and
a caller has a reply only to a command that was processed. -/
structure TellsOutcomes (session : Session V) : Prop where
  stream : ∃ first last, session.backendEvents = first ++ session.outcomeEvents ++ last
  ledger : session.ledger = (Reference.outcomes session.inputs).map Outcome.entry
  signals : ∀ id call, session.calls[id]? = some call →
    (call.signal = .raised ↔ id ∈ session.woken)
  once : session.woken.Nodup
  replies : ∀ id call response, session.calls[id]? = some call → call.stage ≠ .dropped →
    call.reply = .filled response → ∃ command, { caller := id, command, response } ∈ session.ledger

/-- The whole stream of an ended scene in which `left` props were torn down. -/
structure TellsAll (session : Session V) (left : Nat) (reason : Option String) : Prop where
  stream : session.backendEvents
    = [session.startNotice] ++ session.outcomeEvents
      ++ session.fired?.toList.map timeoutNotice
      ++ [{ kind := .sceneEnding, count := some (Event.saturate left) }]
      ++ session.remains.filterMap failureNotice?
      ++ [{ kind := .sceneEnded, count := some (Event.saturate left), reason }]
  fired : ∀ deadline, session.fired? = some deadline
    ↔ .concluded (some deadline) ∈ session.happenings
  tally : left + session.ledger.countP Processed.removes
    = session.ledger.countP Processed.accepts
  final : ∀ schedule, (session.moves schedule).backendEvents = session.backendEvents

theorem Story.processed_of_filled {id : Nat} {call : Call V} {records : List (Happening V)}
    (story : Story session id call records) (kept : call.stage ≠ .dropped)
    {response : Response V} (filled : call.reply = .filled response) :
    ∃ command, .processed { caller := id, command, response } ∈ records := by
  cases story with
  | queued sends unanswered =>
      rcases unanswered with pending | ⟨closed, -⟩
      · cases pending.symm.trans filled
      · cases closed.symm.trans filled
  | @processed request signal command =>
      cases filled
      exact ⟨command, by simp [processedStory]⟩
  | @replied request signal command =>
      cases filled
      exact ⟨command, by simp [processedStory]⟩
  | cancelled => exact absurd rfl kept
  | processedLate => exact absurd rfl kept
  | destroyed => exact absurd rfl kept
  | @listening topic =>
      cases filled
      exact ⟨.subscribe topic, by simp [registeredStory, processedStory]⟩
  | @deserted topic =>
      cases filled
      exact ⟨.subscribe topic, by simp [registeredStory, processedStory]⟩
  | @signalled topic =>
      cases filled
      exact ⟨.subscribe topic, by simp [registeredStory, processedStory]⟩
  | @expired topic =>
      cases filled
      exact ⟨.subscribe topic, by simp [registeredStory, processedStory]⟩
  | @desertedTold topic =>
      cases filled
      exact ⟨.subscribe topic, by simp [registeredStory, processedStory]⟩
  | _ => cases filled

theorem Reachable.tellsOutcomes (reachable : Reachable session) : session.TellsOutcomes := by
  have accounted := reachable.passed.accounted
  constructor
  case stream =>
    rw [← announcements_eq reachable.passed]
    exact ⟨session.overture, session.finale, accounted.events⟩
  case ledger => exact accounted.ledger
  case signals =>
    rw [← session.taken_reference]
    exact accounted.signals
  case once =>
    rw [← session.taken_reference]
    exact (List.nodup_append.mp accounted.once).1
  case replies =>
    intro id call response found kept filled
    obtain ⟨command, processed⟩ :=
      (reachable.passed.chronicle.stories id call found).processed_of_filled kept filled
    exact ⟨command, mem_ledger.mpr ((mem_recordsOf rfl).mp processed)⟩

/-- The message of a terminal result that is an error. -/
def terminalReason : Except SceneError Unit → Option String
  | .error error => some error.message
  | .ok () => none

/-- The result that the backend of an ended scene came to by itself: that of the deadline
that fired, or else of the first cleanup that failed in the teardown. -/
def ownVerdict (session : Session V) : Except SceneError Unit :=
  ownResult (session.fired?.map fun deadline => .timeout deadline.1 deadline.2)
    (session.remains.filterMap cleanupFailure?)

theorem endedEvent_eq (removed : Nat) (own : Except SceneError Unit) :
    endedEvent removed own
      = { kind := .sceneEnded, count := some (Event.saturate removed)
          reason := terminalReason own } := by
  cases own <;> rfl

theorem finale_eq (returned : session.backend = .returned) :
    session.finale = session.fired?.toList.map timeoutNotice
      ++ [{ kind := .sceneEnding, count := some (Event.saturate session.remains.length) }]
      ++ session.remains.filterMap failureNotice?
      ++ [{ kind := .sceneEnded, count := some (Event.saturate session.remains.length)
            reason := terminalReason session.ownVerdict }] := by
  unfold finale farewell
  rw [if_pos returned, failureNotices_eq, endedEvent_eq]
  simp only [List.append_assoc]
  rfl

theorem Reachable.tellsAll (reachable : Reachable session)
    (returned : session.backend = .returned) :
    session.TellsAll session.remains.length (terminalReason session.ownVerdict) := by
  have passed := reachable.passed
  have framed := passed.framed
  constructor
  case stream =>
    rw [passed.accounted.events, announcements_eq passed, finale_eq returned, overture,
      if_pos (framed.opened (.inr returned)), startedEvent_eq]
    simp only [List.append_assoc]
  case fired =>
    refine fun deadline => ⟨fun set => ?_, framed.fired returned deadline⟩
    obtain ⟨happening, recorded, concluding⟩ := List.exists_of_findSome?_eq_some set
    cases happening <;> cases concluding
    exact (List.takeWhile_prefix _).subset recorded
  case tally =>
    have whole := (session.visiting.perm (Processed.leftover session.ledger)).length_eq
    have tally := passed.tally
    rw [← whole] at tally
    exact tally
  case final =>
    intro schedule
    obtain ⟨result, set⟩ := Option.isSome_iff_exists.mp (passed.steered.returned returned).1
    have ended := Ended.advances passed (passed.ended set) (session.moves_advances schedule)
    exact ended.2.1.events

/-- The backend publishes one event for each command, in the order of processing and
before its caller has the reply; and once it has returned, the events are those of the
start, of the commands, of the deadline that fired, if one did, and of the teardown, and
nothing comes after them.  The number of props torn down is that of the accepted stores
less that of the disposes that removed a prop. -/
theorem event_stream (reachable : Reachable session) :
    session.TellsOutcomes
      ∧ (∀ (serving : Session V) (envelope : Envelope V), serving.AnnouncesFirst envelope)
      ∧ (session.backend = .returned → ∃ left reason, session.TellsAll left reason) :=
  ⟨reachable.tellsOutcomes, announcesFirst,
    fun returned => ⟨_, _, reachable.tellsAll returned⟩⟩

/-- A waiter is signalled, a cleanup fails, a fetch finds nothing, and one more cleanup
panics while a stop tears its prop down. -/
def eventfulRun : List (Move Nat) :=
  let failing : Cleanup := { outcome := .fail (.foreign "jammed") }
  let panicking : Cleanup := { outcome := .panic (.fixed "torn") }
  [.act (.call (.waitSignal "go" .zero)), .resume (.call 0), .resume .backend,
    .resume (.call 0), .act (.call (.signal "go")), .resume (.call 1), .resume .backend,
    .act (.call (.store "n" 1 (some failing))), .resume (.call 2), .resume .backend,
    .act (.call (.dispose "n")), .resume (.call 3), .resume .backend,
    .act (.call (.fetch "n")), .resume (.call 4), .resume .backend,
    .act (.call (.store "m" 2 (some panicking))), .resume (.call 5), .resume .backend,
    .act (.call .stop), .resume (.call 6), .resume .backend]

theorem event_stream_eventfulRun :
    (plain.moves eventfulRun).backendEvents.map Event.kind
        = [.sceneStarted, .waiterRegistered, .signalDelivered, .propStored, .cleanupFailed,
          .commandRejected, .propStored, .sceneEnding, .cleanupFailed, .sceneEnded]
      ∧ ∃ left reason, (plain.moves eventfulRun).TellsAll left reason := by
  have returned : (plain.moves eventfulRun).backend = .returned := by decide +kernel
  refine ⟨by decide +kernel, ?_⟩
  exact (event_stream (reachable_plain.moves eventfulRun)).2.2 returned

/-! ## The last event -/

theorem message_timeout_ne (kind : TimeoutKind) (after : Span) (cause : Cause) :
    (SceneError.timeout kind after).message ≠ (SceneError.aborted cause).message := by
  intro same
  have spelled : "scene " ++ kind.label ++ " timeout reached after " ++ after.text
      = "scene aborted: " ++ cause.message := same
  have letters := congrArg String.toList spelled
  cases kind <;> simp [String.toList_append, TimeoutKind.label] at letters

theorem message_cleanupFailed_ne (key : String) (source cause : Cause) :
    (SceneError.cleanupFailed key source).message ≠ (SceneError.aborted cause).message := by
  intro same
  have spelled : "cleanup of prop " ++ Text.quoted key ++ " failed: " ++ source.message
      = "scene aborted: " ++ cause.message := same
  have letters := congrArg String.toList spelled
  simp [String.toList_append] at letters

/-- What the backend came to by itself never reads like an abort. -/
theorem ownVerdict_unaborted (session : Session V) (cause : Cause) :
    terminalReason session.ownVerdict ≠ terminalReason (.error (.aborted cause)) := by
  unfold ownVerdict
  cases session.fired? with
  | some deadline =>
      intro same
      exact message_timeout_ne _ _ cause (Option.some.inj same)
  | none =>
      cases failures : session.remains.filterMap cleanupFailure? with
      | nil => exact (Option.some_ne_none _).symm
      | cons failure rest =>
          have member : failure ∈ session.remains.filterMap cleanupFailure? := by simp [failures]
          obtain ⟨prop, -, failed⟩ := List.mem_filterMap.mp member
          obtain ⟨source, rfl⟩ := cleanupFailure?_key failed
          intro same
          exact message_cleanupFailed_ne _ source cause (Option.some.inj same)

/-- The terminal result is the backend's own, unless an abort came in time. -/
theorem Passed.outcome_eq (passed : Passed session) (returned : session.backend = .returned) :
    session.control.outcome = some (match firstAbort? session.history with
      | some cause => .error (.aborted cause)
      | none => session.ownVerdict) := by
  rw [(passed.judged.ended returned).2]
  unfold verdict
  rw [passed.framed.served returned]
  cases firstAbort? session.history with
  | some cause => rfl
  | none =>
      unfold ownVerdict remains fired?
      cases session.history.findSome? Happening.deadline? with
      | some deadline => rfl
      | none =>
          rw [← List.head?_filterMap]
          cases (session.visiting.arrange (Processed.leftover session.ledger)).filterMap
            cleanupFailure? <;> rfl

theorem kind_outcomeEvent (command : Command V) (response : Response V) (woken : Nat) :
    (outcomeEvent command response woken).kind ≠ .sceneEnded := by
  unfold outcomeEvent
  split <;> exact EventKind.noConfusion

theorem kind_failureNotice {prop : StoredProp V} {event : Event}
    (told : failureNotice? prop = some event) : event.kind ≠ .sceneEnded := by
  unfold failureNotice? at told
  obtain ⟨cause, -, rfl⟩ := Option.map_eq_some_iff.mp told
  exact EventKind.noConfusion

/-- The stream holds one event of its last kind. -/
theorem TellsAll.last {left : Nat} {reason : Option String} (tells : session.TellsAll left reason) :
    session.backendEvents.filter (fun event => event.kind == .sceneEnded)
      = [{ kind := .sceneEnded, count := some (Event.saturate left), reason }] := by
  have outcomes : session.outcomeEvents.filter (fun event => event.kind == .sceneEnded) = [] := by
    refine List.filter_eq_nil_iff.mpr fun event member => ?_
    obtain ⟨deal, -, rfl⟩ := List.mem_map.mp member
    simpa using kind_outcomeEvent _ _ _
  have failures : (session.remains.filterMap failureNotice?).filter
      (fun event => event.kind == .sceneEnded) = [] := by
    refine List.filter_eq_nil_iff.mpr fun event member => ?_
    obtain ⟨prop, -, told⟩ := List.mem_filterMap.mp member
    simpa using kind_failureNotice told
  have deadline : (session.fired?.toList.map timeoutNotice).filter
      (fun event => event.kind == .sceneEnded) = [] := by
    cases session.fired? <;> rfl
  rw [tells.stream]
  simp only [List.filter_append, outcomes, failures, deadline]
  rfl

/-- A scene ends with one last event.  Its reason is the message of the terminal result,
or absent if that is none, unless the scene was aborted: then the reason is what the
backend came to without the abort. -/
theorem farewell_reason (reachable : Reachable session)
    (returned : session.backend = .returned) :
    ∃ event result,
      session.backendEvents.filter (fun event => event.kind == .sceneEnded) = [event]
        ∧ session.control.outcome = some result
        ∧ (event.reason = terminalReason result ↔ ∀ cause, result ≠ .error (.aborted cause)) := by
  refine ⟨_, _, (reachable.tellsAll returned).last, reachable.passed.outcome_eq returned, ?_⟩
  cases firstAbort? session.history with
  | some cause =>
      refine ⟨fun same => absurd same (session.ownVerdict_unaborted cause), fun unaborted => ?_⟩
      exact absurd rfl (unaborted cause)
  | none =>
      refine ⟨fun _ cause aborted => ?_, fun _ => rfl⟩
      exact session.ownVerdict_unaborted cause (congrArg terminalReason aborted)

/-- A caller aborts a scene that holds nothing. -/
def abortEmpty : List (Move Nat) :=
  [.act (.call (.abort (.foreign "enough"))), .resume (.call 0), .resume .backend]

/-- The last event of an aborted scene gives no reason, although the terminal result is an
error. -/
theorem farewell_unreasoned :
    (plain.moves abortEmpty).control.outcome = some (.error (.aborted (.foreign "enough")))
      ∧ terminalReason (.error (.aborted (.foreign "enough"))) = some "scene aborted: enough"
      ∧ (plain.moves abortEmpty).backendEvents.filter (fun event => event.kind == .sceneEnded)
        = [{ kind := .sceneEnded, count := some 0, reason := none }] :=
  ⟨rfl, rfl, by decide +kernel⟩

/-- A cleanup fails while a stop tears its prop down. -/
def failInTeardown : List (Move Nat) :=
  [.act (.call (.store "n" 1 (some { outcome := .fail (.foreign "jammed") }))),
    .resume (.call 0), .resume .backend, .act (.call .stop), .resume (.call 1), .resume .backend]

theorem farewell_reason_failInTeardown :
    (plain.moves failInTeardown).backend = .returned
      ∧ ∃ event result,
        (plain.moves failInTeardown).backendEvents.filter
            (fun event => event.kind == .sceneEnded) = [event]
          ∧ (plain.moves failInTeardown).control.outcome = some result
          ∧ (event.reason = terminalReason result ↔ ∀ cause, result ≠ .error (.aborted cause)) := by
  have returned : (plain.moves failInTeardown).backend = .returned := by decide +kernel
  exact ⟨returned, farewell_reason (reachable_plain.moves failInTeardown) returned⟩

end Session

end BoundedScene
