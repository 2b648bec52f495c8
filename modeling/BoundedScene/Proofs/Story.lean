import BoundedScene.Proofs.Ending

/-!
Contract: what the journal tells about one call.

Owns:
- `Story`, the records about a call that has come to a given stage, with the slots in
  which its reply and its signal arrive;
- the proof that every step of a scene carries the story of a call on.

A story lists the records one by one.  What was answered, refused, overtaken or given
up can be read off the list, and so can everything that did not happen.

Does not own: the order of records about different calls.
-/

namespace BoundedScene

open BoundedScene.Supervision (Control)

namespace Happening

variable {V : Type}

/-- The call that a record is about. -/
def subject? : Happening V → Option Nat
  | .started id => some id
  | .entered envelope => some envelope.caller
  | .processed entry => some entry.caller
  | .replied id _ => some id
  | .overtaken id => some id
  | .answered id _ => some id
  | .cancelled id => some id
  | _ => none

def isAbout (id : Nat) (happening : Happening V) : Bool :=
  happening.subject? == some id

theorem filter_isAbout_cons {id : Nat} {first : Happening V} (about : first.subject? = some id)
    (rest : List (Happening V)) :
    (first :: rest).filter (isAbout id) = first :: rest.filter (isAbout id) :=
  List.filter_cons_of_pos (by simp [isAbout, about])

theorem subject?_of_isByCall {happening : Happening V} {id : Nat}
    (byCall : happening.isByCall id) :
    happening.subject? = none ∨ happening.subject? = some id := by
  cases happening <;> first | exact .inl rfl | exact .inr (congrArg some byCall) | cases byCall

theorem subject?_of_isByCleanup {happening : Happening V} (byCleanup : happening.isByCleanup) :
    happening.subject? = none := by
  cases happening <;> first | rfl | cases byCleanup

end Happening

namespace Session

variable {V : Type}

/-- The records about a call, oldest first. -/
def recordsOf (session : Session V) (id : Nat) : List (Happening V) :=
  session.happenings.filter (Happening.isAbout id)

theorem mem_recordsOf {session : Session V} {id : Nat} {happening : Happening V}
    (about : happening.subject? = some id) :
    happening ∈ session.recordsOf id ↔ happening ∈ session.happenings := by
  unfold recordsOf Happening.isAbout
  simp [about]

theorem recordsOf_of_split {session : Session V} {id : Nat} {early late : List (Happening V)}
    {happening : Happening V} (about : happening.subject? = some id)
    (split : session.happenings = early ++ happening :: late) :
    session.recordsOf id = early.filter (Happening.isAbout id)
      ++ happening :: late.filter (Happening.isAbout id) := by
  unfold recordsOf
  rw [split, List.filter_append, Happening.filter_isAbout_cons about]

theorem mem_ledger {session : Session V} {entry : Processed V} :
    entry ∈ session.ledger ↔ .processed entry ∈ session.happenings := by
  unfold ledger
  rw [List.mem_filterMap]
  constructor
  · rintro ⟨happening, recorded, told⟩
    cases happening <;> cases told
    exact recorded
  · exact fun recorded => ⟨_, recorded, rfl⟩

/-- The scene had started to end when something happened. -/
def EndingBefore (session : Session V) (happening : Happening V) : Prop :=
  ∃ cause : Happening V, cause.beginsEnding = true
    ∧ [cause, happening].Sublist session.happenings

/-! ## The stories -/

/-- The records about a call whose command was processed. -/
def processedStory (id : Nat) (command : Command V) (response : Response V) :
    List (Happening V) :=
  [.started id, .entered { caller := id, command },
    .processed { caller := id, command, response }]

/-- The records about a caller that was registered as a waiter. -/
def registeredStory (id : Nat) (topic : String) (reply : Reply V) : List (Happening V) :=
  processedStory id (.subscribe topic) (.ok reply) ++ [.replied id (.ok reply)]

/-- The records about a call, by what has become of the call. -/
inductive Story (session : Session V) (id : Nat) : Call V → List (Happening V) → Prop where
  | fresh {request : Request V} {signal : SignalSlot} :
      Story session id ⟨request, .fresh, .pending, signal⟩ []
  | seeking {request : Request V} {signal : SignalSlot} {command : Command V}
      (sends : request.command? = some command) :
      Story session id ⟨request, .seekingSlot, .pending, signal⟩ [.started id]
  | queued {request : Request V} {signal : SignalSlot} {reply : ReplySlot V}
      {command : Command V} (sends : request.command? = some command)
      (unanswered : reply = .pending ∨ reply = .closed ∧ session.control.ending = true) :
      Story session id ⟨request, .awaitingReply, reply, signal⟩
        [.started id, .entered { caller := id, command }]
  | processed {request : Request V} {signal : SignalSlot} {command : Command V}
      {response : Response V} (sends : request.command? = some command)
      (registers : ∀ topic, command = .subscribe topic → response = .ok .done) :
      Story session id ⟨request, .awaitingReply, .filled response, signal⟩
        (processedStory id command response)
  | listening {topic : String} {limit : Span} {signal : SignalSlot} {reply : Reply V}
      {deadline : Option Nat} :
      Story session id
        ⟨.waitSignal topic limit, .awaitingSignal deadline, .filled (.ok reply), signal⟩
        (registeredStory id topic reply)
  /-- Waits for the end, as a call that sends no command. -/
  | asking {request : Request V} {signal : SignalSlot} (plain : request.command? = none) :
      Story session id ⟨request, .awaitingResult, .pending, signal⟩ [.started id]
  /-- Waits for the end, which overtook its command. -/
  | overtaken {request : Request V} {signal : SignalSlot} {command : Command V}
      (sends : request.command? = some command) (late : session.EndingBefore (.overtaken id)) :
      Story session id ⟨request, .awaitingResult, .closed, signal⟩
        [.started id, .entered { caller := id, command }, .overtaken id]
  /-- Waits for the end, which overtook its wait for a signal. -/
  | deserted {topic : String} {limit : Span} {signal : SignalSlot} {reply : Reply V}
      (unsignalled : signal ≠ .raised) :
      Story session id ⟨.waitSignal topic limit, .awaitingResult, .filled (.ok reply), signal⟩
        (registeredStory id topic reply ++ [.overtaken id])
  | answered {request : Request V} {signal : SignalSlot} {answer : Answer V}
      {millisecond : Nat} (plain : request.command? = none) :
      Story session id ⟨request, .finished answer millisecond, .pending, signal⟩
        [.started id, .answered id answer]
  | refused {request : Request V} {signal : SignalSlot} {command : Command V}
      {millisecond : Nat} (sends : request.command? = some command)
      (late : session.EndingBefore (.answered id (.failed .ended))
        ∨ session.control.lost = true) :
      Story session id ⟨request, .finished (.failed .ended) millisecond, .pending, signal⟩
        [.started id, .answered id (.failed .ended)]
  | replied {request : Request V} {signal : SignalSlot} {command : Command V}
      {response : Response V} {millisecond : Nat} (sends : request.command? = some command)
      (final : ∀ topic limit, request ≠ .waitSignal topic limit) :
      Story session id
        ⟨request, .finished (responseAnswer response) millisecond, .filled response, signal⟩
        (processedStory id command response
          ++ [.replied id response, .answered id (responseAnswer response)])
  | overtakenTold {request : Request V} {signal : SignalSlot} {command : Command V}
      {result : Except SceneError Unit} {millisecond : Nat}
      (sends : request.command? = some command) (late : session.EndingBefore (.overtaken id))
      (set : session.result? = some result) :
      Story session id
        ⟨request, .finished (terminalAnswer request result) millisecond, .closed, signal⟩
        [.started id, .entered { caller := id, command }, .overtaken id,
          .answered id (terminalAnswer request result)]
  | signalled {topic : String} {limit : Span} {reply : Reply V} {millisecond : Nat} :
      Story session id
        ⟨.waitSignal topic limit, .finished .done millisecond, .filled (.ok reply), .raised⟩
        (registeredStory id topic reply ++ [.answered id .done])
  | expired {topic : String} {limit : Span} {reply : Reply V} {millisecond : Nat} :
      Story session id
        ⟨.waitSignal topic limit, .finished (.failed (.waitedTooLong topic)) millisecond,
          .filled (.ok reply), .pending⟩
        (registeredStory id topic reply ++ [.answered id (.failed (.waitedTooLong topic))])
  | desertedTold {topic : String} {limit : Span} {signal : SignalSlot} {reply : Reply V}
      {result : Except SceneError Unit} {millisecond : Nat} (unsignalled : signal ≠ .raised)
      (set : session.result? = some result) :
      Story session id
        ⟨.waitSignal topic limit,
          .finished (terminalAnswer (.waitSignal topic limit) result) millisecond,
          .filled (.ok reply), signal⟩
        (registeredStory id topic reply
          ++ [.overtaken id, .answered id (terminalAnswer (.waitSignal topic limit) result)])
  | cancelled {call : Call V} {records : List (Happening V)}
      (lived : Story session id call records) (unfinished : call.isUnfinished = true) :
      Story session id { call with stage := .dropped } (records ++ [.cancelled id])
  /-- Its command was in the mailbox when it was given up. -/
  | processedLate {request : Request V} {reply : ReplySlot V} {signal : SignalSlot}
      {command : Command V} {response : Response V} (sends : request.command? = some command) :
      Story session id ⟨request, .dropped, reply, signal⟩
        [.started id, .entered { caller := id, command }, .cancelled id,
          .processed { caller := id, command, response }]
  /-- Its task was destroyed. -/
  | destroyed {call : Call V} {records : List (Happening V)}
      (lived : Story session id call records) (unfinished : call.isUnfinished = true)
      (stopped : session.backendRuns = false) :
      Story session id { call with stage := .dropped } records

/-! ## Stories stay true -/

/-- Nothing that a story relies on was taken back. -/
structure Later (before after : Session V) : Prop where
  happenings : before.happenings <+: after.happenings
  ending : before.control.ending = true → after.control.ending = true
  lost : before.control.lost = true → after.control.lost = true
  result : ∀ result, before.result? = some result → after.result? = some result
  stopped : before.backendRuns = false → after.backendRuns = false

variable {before after : Session V} {id : Nat} {call : Call V} {records : List (Happening V)}

theorem EndingBefore.later {happening : Happening V} (late : before.EndingBefore happening)
    (later : Later before after) : after.EndingBefore happening := by
  obtain ⟨cause, begins, precedes⟩ := late
  exact ⟨cause, begins, precedes.trans later.happenings.sublist⟩

theorem Story.later (story : Story before id call records) (later : Later before after) :
    Story after id call records := by
  induction story with
  | fresh => exact .fresh
  | seeking sends => exact .seeking sends
  | queued sends unanswered =>
      exact .queued sends (unanswered.imp_right fun closed => ⟨closed.1, later.ending closed.2⟩)
  | processed sends registers => exact .processed sends registers
  | listening => exact .listening
  | asking plain => exact .asking plain
  | overtaken sends late => exact .overtaken sends (late.later later)
  | deserted unsignalled => exact .deserted unsignalled
  | answered plain => exact .answered plain
  | refused sends late =>
      exact .refused sends (late.imp (fun late => late.later later) later.lost)
  | replied sends final => exact .replied sends final
  | overtakenTold sends late set =>
      exact .overtakenTold sends (late.later later) (later.result _ set)
  | signalled => exact .signalled
  | expired => exact .expired
  | desertedTold unsignalled set => exact .desertedTold unsignalled (later.result _ set)
  | cancelled lived unfinished inductionHypothesis =>
      exact .cancelled inductionHypothesis unfinished
  | processedLate sends => exact .processedLate sends
  | destroyed lived unfinished stopped inductionHypothesis =>
      exact .destroyed inductionHypothesis unfinished (later.stopped stopped)

/-! ## Who waits for a reply -/

/-- A call that waits for its reply has entered its command.  The reply came in when that was
processed; it was closed before only if the scene has started to end. -/
theorem Story.of_awaitingReply (story : Story before id call records)
    (waiting : call.stage = .awaitingReply) :
    ∃ command, call.request.command? = some command
      ∧ (records = [.started id, .entered { caller := id, command }]
          ∧ (call.reply = .pending ∨ call.reply = .closed ∧ before.control.ending = true)
        ∨ ∃ response, call.reply = .filled response
          ∧ records = processedStory id command response
          ∧ ∀ topic, command = .subscribe topic → response = .ok .done) := by
  cases story with
  | queued sends unanswered => exact ⟨_, sends, .inl ⟨rfl, unanswered⟩⟩
  | processed sends registers => exact ⟨_, sends, .inr ⟨_, rfl, rfl, registers⟩⟩
  | _ => cases waiting

theorem Story.of_filled (story : Story before id call records)
    (waiting : call.stage = .awaitingReply) {response : Response V}
    (filled : call.reply = .filled response) :
    ∃ command, call.request.command? = some command
      ∧ records = processedStory id command response
      ∧ ∀ topic, command = .subscribe topic → response = .ok .done := by
  obtain ⟨command, sends, ⟨-, unanswered⟩ | ⟨_, own, told, registers⟩⟩ :=
    story.of_awaitingReply waiting
  · rcases unanswered with pending | ⟨closed, -⟩
    · cases pending.symm.trans filled
    · cases closed.symm.trans filled
  · cases own.symm.trans filled
    exact ⟨command, sends, told, registers⟩

/-- The reply that a waiter for a signal takes says that it is registered. -/
theorem Story.registered_of_filled (story : Story before id call records)
    (waiting : call.stage = .awaitingReply) {topic : String} {limit : Span}
    (asks : call.request = .waitSignal topic limit) {response : Response V}
    (filled : call.reply = .filled response) :
    response = .ok .done ∧ records = processedStory id (.subscribe topic) response := by
  obtain ⟨command, sends, told, registers⟩ := story.of_filled waiting filled
  rw [asks] at sends
  cases sends
  exact ⟨registers topic rfl, told⟩

/-- A call whose reply was closed while it waited for it finds the scene ending. -/
theorem Story.ending_of_closed (story : Story before id call records)
    (waiting : call.stage = .awaitingReply) (closed : call.reply = .closed) :
    before.control.ending = true := by
  obtain ⟨command, -, ⟨-, unanswered⟩ | ⟨_, own, -⟩⟩ := story.of_awaitingReply waiting
  · exact (unanswered.resolve_left fun pending => by cases pending.symm.trans closed).2
  · cases own.symm.trans closed

theorem result?_of_control {control : Control SceneError}
    (outcome : control.outcome = before.control.outcome)
    (lost : control.lost = before.control.lost) :
    settled? control = before.result? := by
  unfold settled? result? Control.result?
  rw [outcome, lost]

theorem Advance.later (steered : before.Steered) (step : Advance before after) :
    Later before after := by
  have proceeds {log : List (Happening V)}
      (steady : ∀ happening ∈ log, happening.concludes = false)
      (happenings : after.happenings = before.happenings ++ log)
      (control : after.control = log.foldl steer before.control)
      (stopped : before.backendRuns = false → after.backendRuns = false) :
      Later before after := by
    have ending := foldl_steer_ending log before.control
    have lost := foldl_steer_lost log before.control
    have outcome := foldl_steer_outcome before.control steady
    rw [← control] at ending lost outcome
    exact {
      happenings := ⟨log, happenings.symm⟩
      ending := fun ended => by simp [ending, ended]
      lost := fun gone => lost.trans gone
      result := fun result set => (result?_of_control outcome lost).trans set
      stopped }
  cases step.course with
  | calm calm happenings control visiting limits props subscriptions backend =>
      refine proceeds (fun happening member =>
        Happening.concludes_of_isCalm (calm happening member)) happenings control fun halted => ?_
      rcases backend with same | ⟨ran, -⟩
      · simpa only [backendRuns, same] using halted
      · rw [ran] at halted
        cases halted
  | @serves envelope rest serving unstopped taken served =>
      obtain ⟨backend, -, growth⟩ := serveOne_evolves serving envelope rest
      subst served
      refine proceeds (before.steady_serveLog envelope) growth.happenings growth.control
        fun halted => ?_
      rw [serving.runs] at halted
      cases halted
  | @ends log heralds error serving cause =>
      obtain ⟨unset, -, present, -⟩ := steered.running serving.runs
      exact {
        happenings := ⟨before.endLog log error, cause.happenings.symm⟩
        ending := fun _ => cause.ending
        lost := fun gone => by simp [present] at gone
        result := fun result set => by
          simp [result?, Control.result?, unset, present] at set
        stopped := fun _ => by simp [backendRuns, cause.backend] }
  | loses lost =>
      subst lost
      exact {
        happenings := List.prefix_rfl
        ending := fun ended => ended
        lost := fun gone => by simp [dropTasks, Control.lose, gone]
        result := fun result set => by
          unfold result? Control.result? at set ⊢
          cases outcome : before.control.outcome with
          | some stored => simpa [dropTasks, Control.lose, outcome] using set
          | none =>
              have gone : before.control.lost = true := by
                cases flag : before.control.lost with
                | true => rfl
                | false => simp [outcome, flag] at set
              simpa [dropTasks, Control.lose, outcome, gone] using set
        stopped := fun _ => before.backendRuns_dropTasks }

/-! ## The turn of the call itself -/

theorem Steered.endingBefore (steered : before.Steered) (ending : before.control.ending = true)
    {log : List (Happening V)} (happenings : after.happenings = before.happenings ++ log)
    {happening : Happening V} (member : happening ∈ log) : after.EndingBefore happening := by
  obtain ⟨cause, recorded, begins⟩ := steered.ending_iff.mp ending
  refine ⟨cause, begins, ?_⟩
  rw [happenings]
  exact (List.singleton_sublist.mpr recorded).append (List.singleton_sublist.mpr member)

theorem filter_isAbout_of_isByCall {log : List (Happening V)} {other : Nat}
    (byCall : ∀ happening ∈ log, happening.isByCall id) (elsewhere : id ≠ other) :
    log.filter (Happening.isAbout other) = [] := by
  refine List.filter_eq_nil_iff.mpr fun happening member => ?_
  have subject := Happening.subject?_of_isByCall (byCall happening member)
  unfold Happening.isAbout
  rcases subject with none | some
  · simp [none]
  · simpa [some] using elsewhere

theorem ResultTurn.filter_isAbout {control : Control SceneError} {request : Request V}
    {log : List (Happening V)} {stage : Stage V}
    (turn : ResultTurn control id request log stage) : log.filter (Happening.isAbout id) = log := by
  cases turn <;> simp [Happening.isAbout, Happening.subject?]

theorem SignalTurn.filter_isAbout {control : Control SceneError} {clock : Clock} {topic : String}
    {deadline : Option Nat} {log : List (Happening V)} {stage : Stage V}
    (turn : SignalTurn control clock id call topic deadline log stage) :
    log.filter (Happening.isAbout id) = log := by
  cases turn with
  | overtaken lapsed turn =>
      rw [Happening.filter_isAbout_cons rfl, turn.filter_isAbout]
  | _ => simp [Happening.isAbout, Happening.subject?]

theorem ReplyTurn.filter_isAbout {control : Control SceneError} {clock : Clock}
    {response : Response V} {log : List (Happening V)} {stage : Stage V}
    (turn : ReplyTurn control clock id call response log stage) :
    log.filter (Happening.isAbout id) = log := by
  cases turn with
  | answered => simp [Happening.isAbout, Happening.subject?]
  | registered deadline asks accepted turn => exact turn.filter_isAbout

theorem SubmitTurn.filter_isAbout {control : Control SceneError}
    {earlier mailbox : Mailbox (Envelope V)} {command : Command V} {log : List (Happening V)}
    {stage : Stage V} (turn : SubmitTurn control earlier id command log stage mailbox) :
    log.filter (Happening.isAbout id) = log := by
  cases turn <;> simp [Happening.isAbout, Happening.subject?]

/-- A call that waits for the end goes on. -/
theorem ResultTurn.story {request : Request V} {reply : ReplySlot V} {signal : SignalSlot}
    {log : List (Happening V)} {stage : Stage V}
    (story : Story after id ⟨request, .awaitingResult, reply, signal⟩ records)
    (turn : ResultTurn before.control id request log stage) (later : Later before after) :
    Story after id ⟨request, stage, reply, signal⟩ (records ++ log) := by
  cases turn with
  | waits unset => simpa using story
  | told set =>
      cases story with
      | asking plain => exact .answered plain
      | overtaken sends late => exact .overtakenTold sends late (later.result _ set)
      | deserted unsignalled =>
          rw [List.append_assoc]
          exact .desertedTold unsignalled (later.result _ set)

/-- A waiter goes on. -/
theorem SignalTurn.story {topic : String} {limit : Span} {reply : Reply V} {stage : Stage V}
    {signal : SignalSlot} {clock : Clock} {deadline : Option Nat} {log : List (Happening V)}
    {now : Stage V}
    (turn : SignalTurn before.control clock id
      ⟨.waitSignal topic limit, stage, .filled (.ok reply), signal⟩ topic deadline log now)
    (later : Later before after) :
    Story after id ⟨.waitSignal topic limit, now, .filled (.ok reply), signal⟩
      (registeredStory id topic reply ++ log) := by
  cases turn with
  | raised raised =>
      cases raised
      exact .signalled
  | overtaken lapsed turn =>
      have unsignalled : signal ≠ .raised := by
        rcases lapsed with released | ⟨pending, -⟩
        · cases released
          exact SignalSlot.noConfusion
        · cases pending
          exact SignalSlot.noConfusion
      rw [List.append_cons]
      exact turn.story (.deserted unsignalled) later
  | expired silent ongoing due =>
      cases silent
      exact .expired
  | waits silent ongoing early =>
      rw [List.append_nil]
      exact .listening

/-- The reply goes to its caller. -/
theorem ReplyTurn.story {request : Request V} {stage : Stage V} {signal : SignalSlot}
    {command : Command V} {response : Response V} {clock : Clock} {log : List (Happening V)}
    {now : Stage V}
    (turn : ReplyTurn before.control clock id ⟨request, stage, .filled response, signal⟩ response
      log now)
    (sends : request.command? = some command)
    (registers : ∀ topic, command = .subscribe topic → response = .ok .done)
    (later : Later before after) :
    Story after id ⟨request, now, .filled response, signal⟩
      (processedStory id command response ++ .replied id response :: log) := by
  cases turn with
  | answered final =>
      refine .replied sends ?_
      rintro topic limit rfl
      cases sends
      cases registers topic rfl
      cases final
  | registered deadline asks accepted turn =>
      cases asks
      cases accepted
      cases sends
      rw [List.append_cons]
      exact turn.story later

theorem SubmitTurn.story {request : Request V} {signal : SignalSlot} {command : Command V}
    {stage : Stage V} {log : List (Happening V)} {mailbox : Mailbox (Envelope V)}
    (sends : request.command? = some command)
    (turn : SubmitTurn before.control before.mailbox id command log stage mailbox)
    (late : before.control.ending = true ∨ before.mailbox.closed = true →
      .answered id (.failed .ended) ∈ log →
        after.EndingBefore (.answered id (.failed .ended)) ∨ after.control.lost = true) :
    Story after id ⟨request, stage, .pending, signal⟩ (.started id :: log) := by
  cases turn with
  | refused barred => exact .refused sends (late barred (List.mem_singleton.mpr rfl))
  | enters ongoing unclosed admitted => exact .queued sends (.inl rfl)
  | linesUp ongoing unclosed full => exact .seeking sends

/-- The turn of a call carries its story on. -/
theorem CallTurn.story {log : List (Happening V)} {changes : List (CallChange V)}
    {mailbox : Mailbox (Envelope V)} (story : Story before id call records)
    (turn : CallTurn before id call log changes mailbox) (steered : before.Steered)
    (shut : before.mailbox.closed = true →
      before.control.ending = true ∨ before.control.lost = true)
    (later : Later before after) (happenings : after.happenings = before.happenings ++ log) :
    Story after id (Call.applyAll id changes call)
      (records ++ log.filter (Happening.isAbout id)) := by
  have late (ended : before.control.ending = true) {happening : Happening V}
      (member : happening ∈ log) : after.EndingBefore happening :=
    steered.endingBefore ended happenings member
  cases turn with
  | rests resting => simpa using story.later later
  | strays stray => simpa using story.later later
  | stops fresh asks turn =>
      cases story <;> cases fresh
      cases asks
      rw [Call.applyAll_staged, List.nil_append, Happening.filter_isAbout_cons rfl,
        List.filter_cons_of_neg (by simp [Happening.isAbout, Happening.subject?]),
        turn.filter_isAbout]
      exact turn.story (.asking rfl) later
  | waits fresh asks turn =>
      cases story <;> cases fresh
      cases asks
      rw [Call.applyAll_staged, List.nil_append, Happening.filter_isAbout_cons rfl,
        turn.filter_isAbout]
      exact turn.story (.asking rfl) later
  | aborts fresh asks =>
      cases story <;> cases fresh
      cases asks
      rw [Call.applyAll_staged]
      simpa [Happening.isAbout, Happening.subject?] using Story.answered rfl
  | looks fresh asks =>
      cases story <;> cases fresh
      cases asks
      rw [Call.applyAll_staged]
      simpa [Happening.isAbout, Happening.subject?] using Story.answered rfl
  | @submits opening submitted stage command mailbox opens sends turn =>
      have barred (refused : before.control.ending = true ∨ before.mailbox.closed = true)
          (member : .answered id (.failed .ended) ∈ submitted) :
          after.EndingBefore (.answered id (.failed .ended)) ∨ after.control.lost = true := by
        have logged := List.mem_append_right opening member
        rcases refused with ending | closed
        · exact .inl (late ending logged)
        · exact (shut closed).imp (fun ending => late ending logged) later.lost
      rw [Call.applyAll_staged, List.filter_append, turn.filter_isAbout]
      cases story with
      | fresh =>
          cases opens
          rw [Happening.filter_isAbout_cons rfl]
          exact turn.story sends barred
      | seeking =>
          cases opens
          exact turn.story sends barred
      | _ => cases opens
  | replied waiting filled turn =>
      obtain ⟨command, sends, rfl, registers⟩ := story.of_filled waiting filled
      obtain ⟨request, stage, reply, signal⟩ := call
      cases filled
      rw [Call.applyAll_staged, Happening.filter_isAbout_cons rfl, turn.filter_isAbout]
      exact turn.story sends registers later
  | overtaken waiting lapsed turn =>
      have ending : before.control.ending = true :=
        lapsed.elim (story.ending_of_closed waiting) And.right
      obtain ⟨command, sends, ⟨rfl, -⟩ | ⟨_, filled, -⟩⟩ := story.of_awaitingReply waiting
      · have overtaken := late ending (List.mem_cons_self ..)
        rw [Call.applyAll_cons, Call.applyAll_staged, Happening.filter_isAbout_cons rfl,
          turn.filter_isAbout]
        simp only [Call.apply, if_true]
        rw [List.append_cons]
        exact turn.story (.overtaken sends overtaken) later
      · rw [filled] at lapsed
        rcases lapsed with closed | ⟨pending, -⟩
        · cases closed
        · cases pending
  | listens waiting asks turn =>
      cases story <;> cases waiting
      cases asks
      rw [Call.applyAll_staged, turn.filter_isAbout]
      exact turn.story later
  | asks waiting turn =>
      rw [Call.applyAll_staged, turn.filter_isAbout]
      obtain ⟨request, stage, reply, signal⟩ := call
      cases waiting
      exact turn.story (story.later later) later

/-! ## What reaches the call -/

theorem Story.notified (story : Story before id call records) (target : Nat)
    (slot : SignalSlot) :
    Story before id (Call.apply id call (.signal target slot)) records := by
  unfold Call.apply
  dsimp only
  split
  case isFalse => exact story
  case isTrue hears =>
    cases story with
    | queued sends unanswered => exact .queued sends unanswered
    | processed sends registers => exact .processed sends registers
    | listening => exact .listening
    | _ => cases hears.2

theorem Story.allNotified (story : Story before id call records) (targets : List Nat)
    (slot : SignalSlot) :
    Story before id (Call.applyAll id (targets.map fun target => .signal target slot) call)
      records := by
  induction targets generalizing call with
  | nil => exact story
  | cons first rest inductionHypothesis => exact inductionHypothesis (story.notified first slot)

theorem reply_elsewhere {target : Nat} (elsewhere : target ≠ id) (slot : ReplySlot V)
    (call : Call V) : Call.apply id call (.reply target slot) = call := by
  simp [Call.apply, elsewhere]

/-- The end closes the reply of everyone whose command was not processed. -/
theorem Story.allClosed (story : Story before id call records)
    (ending : before.control.ending = true) (callers : List Nat)
    (unprocessed : id ∈ callers → records.filterMap Happening.processed? = []) :
    Story before id (Call.applyAll id (callers.map fun caller => .reply caller .closed) call)
      records := by
  induction callers generalizing call with
  | nil => exact story
  | cons first rest inductionHypothesis =>
      refine inductionHypothesis ?_ fun member => unprocessed (List.mem_cons_of_mem _ member)
      unfold Call.apply
      dsimp only
      split
      case isFalse => exact story
      case isTrue hears =>
        cases story with
        | queued sends unanswered => exact .queued sends (.inr ⟨rfl, ending⟩)
        | processed sends registers =>
            have none := unprocessed (hears.1 ▸ List.mem_cons_self ..)
            simp [processedStory, Happening.processed?] at none
        | _ => cases hears.2

/-- While the scene goes on, a caller whose command entered the mailbox and was not
processed waits for the reply, or was given up. -/
theorem Story.unprocessed (story : Story before id call records) (steered : before.Steered)
    (runs : before.backendRuns = true) (ongoing : before.control.ending = false)
    {command : Command V} (entered : .entered { caller := id, command } ∈ records)
    (unprocessed : records.filterMap Happening.processed? = []) :
    call.request.command? = some command
      ∧ (call.stage = .awaitingReply
          ∧ records = [.started id, .entered { caller := id, command }]
        ∨ call.stage = .dropped
          ∧ records = [.started id, .entered { caller := id, command }, .cancelled id]) := by
  have early {happening : Happening V} (late : before.EndingBefore happening) : False := by
    obtain ⟨cause, begins, precedes⟩ := late
    have ending := steered.ending_iff.mpr
      ⟨cause, precedes.subset (List.mem_cons_self ..), begins⟩
    rw [ongoing] at ending
    cases ending
  cases story with
  | queued sends unanswered =>
      simp at entered
      cases entered
      exact ⟨sends, .inl ⟨rfl, rfl⟩⟩
  | overtaken sends late => exact (early late).elim
  | overtakenTold sends late set => exact (early late).elim
  | cancelled lived unfinished =>
      cases lived with
      | queued sends unanswered =>
          simp at entered
          cases entered
          exact ⟨sends, .inr ⟨rfl, rfl⟩⟩
      | overtaken sends late => exact (early late).elim
      | fresh => simp at entered
      | seeking => simp at entered
      | asking => simp at entered
      | processed => simp [processedStory, Happening.processed?] at unprocessed
      | listening => simp [registeredStory, processedStory, Happening.processed?] at unprocessed
      | deserted => simp [registeredStory, processedStory, Happening.processed?] at unprocessed
      | _ => cases unfinished
  | destroyed lived unfinished stopped =>
      rw [runs] at stopped
      cases stopped
  | fresh => simp at entered
  | seeking => simp at entered
  | asking => simp at entered
  | answered => simp at entered
  | refused => simp at entered
  | processedLate => simp [Happening.processed?] at unprocessed
  | _ => simp [registeredStory, processedStory, Happening.processed?] at unprocessed

/-- The command of a caller is processed. -/
theorem Story.process (story : Story before id call records) (steered : before.Steered)
    (runs : before.backendRuns = true) (ongoing : before.control.ending = false)
    {command : Command V} (entered : .entered { caller := id, command } ∈ records)
    (unprocessed : records.filterMap Happening.processed? = []) {response : Response V}
    (registers : ∀ topic, command = .subscribe topic → response = .ok .done) :
    Story before id (Call.apply id call (.reply id (.filled response)))
      (records ++ [.processed { caller := id, command, response }]) := by
  obtain ⟨sends, ⟨stage, rfl⟩ | ⟨stage, rfl⟩⟩ :=
    story.unprocessed steered runs ongoing entered unprocessed
  · obtain ⟨request, now, reply, signal⟩ := call
    cases stage
    have filled : Call.apply id ⟨request, .awaitingReply, reply, signal⟩
        (.reply id (.filled response)) = ⟨request, .awaitingReply, .filled response, signal⟩ := by
      simp [Call.apply, Call.awaitsReply]
    rw [filled]
    exact .processed sends registers
  · obtain ⟨request, now, reply, signal⟩ := call
    cases stage
    have deaf : Call.apply id ⟨request, .dropped, reply, signal⟩
        (.reply id (.filled response)) = ⟨request, .dropped, reply, signal⟩ := by
      simp [Call.apply, Call.awaitsReply]
    rw [deaf]
    exact .processedLate sends

end Session

end BoundedScene
