import BoundedScene.Proofs.Account
import BoundedScene.Proofs.Attention
import BoundedScene.Proofs.Linearizability

/-!
Contract: what becomes of a command whose caller does not give it up.

Owns:
- `Fate`, the three things that can become of a command, and `Meets`, when each does;
- the proof that a command that was not processed leaves no trace;
- the proof that a scene at rest has dealt with every command.

Main statement: `Session.failure_classification`.

Does not own: which result a scene ends with.
-/

namespace BoundedScene

namespace Session

variable {V : Type} {session before after : Session V} {id : Nat} {call : Call V}
  {command : Command V} {records : List (Happening V)}

/-! ## Admission -/

/-- What a step records about an admission: that it came while the scene had not started
to end. -/
theorem Advance.admits (step : Advance before after) : ∃ log,
    after.happenings = before.happenings ++ log
      ∧ (log.filterMap Happening.arrival? = []
        ∨ before.control.ending = false ∧ ∃ opening envelope,
          log = opening ++ [.entered envelope]
            ∧ ∀ happening ∈ opening, happening.beginsEnding = false) := by
  cases step with
  | drifts growth => exact ⟨[], growth.happenings, .inl rfl⟩
  | makes request => exact ⟨[], (before.makeCall_evolves request).happenings, .inl rfl⟩
  | turns found =>
      obtain ⟨log, changes, mailbox, turn, growth, -⟩ := before.resumeCall_turnsBy _ _ found
      refine ⟨log, growth.happenings, ?_⟩
      obtain ⟨-, -, none | ⟨-, ongoing, opening, command, opens, rfl⟩⟩ := turn.queue
      · exact .inl none
      · exact .inr ⟨ongoing, opening, _, rfl, opens.early.2.2⟩
  | cancels found unfinished =>
      exact ⟨_, (before.cancel_evolves found unfinished).1.happenings, .inl rfl⟩
  | opens fresh => exact ⟨_, before.openUp_evolves.happenings, .inl rfl⟩
  | @processes envelope rest serving unstopped undue taken =>
      obtain ⟨backend, -, growth⟩ := serveOne_evolves serving envelope rest
      exact ⟨_, growth.happenings, .inl (before.unarrived_serveLog envelope)⟩
  | ends serving cause => exact ⟨_, cause.evolves.happenings, .inl cause.unarrived_endLog⟩
  | loses => exact ⟨[], (List.append_nil _).symm, .inl rfl⟩

/-- No command enters once the scene has started to end. -/
theorem Passed.entered_early {session : Session V} (passed : Passed session)
    (envelope : Envelope V) : ¬session.EndingBefore (.entered envelope) := by
  induction passed with
  | initial initial =>
      rintro ⟨cause, -, precedes⟩
      simp [happenings, initial.journal] at precedes
  | @advance before after passed step early =>
      rintro ⟨cause, begins, precedes⟩
      obtain ⟨log, happenings, admits⟩ := step.admits
      rw [happenings] at precedes
      rcases sublist_or_mem_of_append precedes with old | entered
      · exact early ⟨cause, begins, old⟩
      · rcases admits with none | ⟨ongoing, opening, other, rfl, harmless⟩
        · have arrived : envelope ∈ log.filterMap Happening.arrival? :=
            List.mem_filterMap.mpr ⟨_, entered, rfl⟩
          rw [none] at arrived
          cases arrived
        · -- The scene has not started to end, so the cause is not an old record.
          have present : cause ∈ before.happenings ++ (opening ++ [.entered other]) :=
            precedes.subset (by simp)
          rw [List.mem_append, List.mem_append, List.mem_singleton] at present
          rcases present with old | opened | rfl
          · have ending := passed.steered.ending_iff.mpr ⟨cause, old, begins⟩
            rw [ongoing] at ending
            cases ending
          · rw [harmless cause opened] at begins
            cases begins
          · cases begins

/-! ## The three fates -/

/-- What can become of a command whose caller does not give it up. -/
inductive Fate where
  | replied
  | barred
  | overtaken
deriving DecidableEq, Repr

/-- What a caller is told whose command the end of the scene overtook. -/
def terminalError : Except SceneError Unit → SceneError
  | .error error => error
  | .ok () => .ended

/-- When a command meets which fate.

- `replied`: it was processed and its caller has the reply; a caller that waits for
  nothing else is answered with it.
- `barred`: it never entered the mailbox; the scene had started to end before its caller
  was told so.
- `overtaken`: it entered the mailbox before the scene started to end and was not
  processed; its caller is told the terminal error, or else that the scene has ended. -/
inductive Meets (session : Session V) (id : Nat) (call : Call V) (command : Command V) :
    Fate → Prop where
  | replied {response : Response V}
      (processed : .processed { caller := id, command, response } ∈ session.happenings)
      (received : .replied id response ∈ session.happenings)
      (answered : (∀ topic limit, call.request ≠ .waitSignal topic limit) →
        ∃ millisecond, call.stage = .finished (responseAnswer response) millisecond) :
      Meets session id call command .replied
  | barred {millisecond : Nat}
      (outside : .entered { caller := id, command } ∉ session.happenings)
      (late : session.EndingBefore (.answered id (.failed .ended)))
      (answered : call.stage = .finished (.failed .ended) millisecond) :
      Meets session id call command .barred
  | overtaken {result : Except SceneError Unit} {millisecond : Nat}
      (entered : .entered { caller := id, command } ∈ session.happenings)
      (early : ¬session.EndingBefore (.entered { caller := id, command }))
      (unprocessed : ∀ response,
        .processed { caller := id, command, response } ∉ session.happenings)
      (late : session.EndingBefore (.overtaken id))
      (set : session.control.outcome = some result)
      (answered : call.stage = .finished (.failed (terminalError result)) millisecond) :
      Meets session id call command .overtaken

/-- The caller of a command has its reply, or has been answered without one. -/
def CommandOver (session : Session V) (id : Nat) : Prop :=
  (∃ response, .replied id response ∈ session.happenings)
    ∨ ∃ answer, .answered id answer ∈ session.happenings

theorem terminalAnswer_of_command {request : Request V} (sends : request.command? = some command)
    (result : Except SceneError Unit) :
    terminalAnswer request result = .failed (terminalError result) := by
  cases result with
  | error error => rfl
  | ok done => cases request <;> first | rfl | cases sends

theorem outcome_of_result {result : Except SceneError Unit} (present : session.control.lost = false)
    (set : session.result? = some result) : session.control.outcome = some result := by
  unfold result? Supervision.Control.result? at set
  cases outcome : session.control.outcome with
  | some stored => simpa [outcome] using set
  | none => simp [outcome, present] at set

/-- A command whose caller got an answer met one of the fates. -/
theorem Story.fate (story : Story session id call (session.recordsOf id))
    (sends : call.request.command? = some command) (kept : call.stage ≠ .dropped)
    (present : session.control.lost = false)
    (early : ∀ envelope, ¬session.EndingBefore (.entered envelope))
    (settled : session.CommandOver id) : ∃ fate, session.Meets id call command fate := by
  have entered : .entered { caller := id, command } ∈ session.recordsOf id
      ↔ .entered { caller := id, command } ∈ session.happenings := mem_recordsOf rfl
  have processed (response : Response V) :
      .processed { caller := id, command, response } ∈ session.recordsOf id
        ↔ .processed { caller := id, command, response } ∈ session.happenings := mem_recordsOf rfl
  have replied (response : Response V) : .replied id response ∈ session.recordsOf id
      ↔ .replied id response ∈ session.happenings := mem_recordsOf rfl
  have answered (answer : Answer V) : .answered id answer ∈ session.recordsOf id
      ↔ .answered id answer ∈ session.happenings := mem_recordsOf rfl
  unfold CommandOver at settled
  simp only [← replied, ← answered] at settled
  generalize session.recordsOf id = records at *
  -- A waiter that was registered has its reply, whatever came later.
  have registered {topic : String} {limit : Span} {reply : Reply V}
      (waits : call.request = .waitSignal topic limit) {later : List (Happening V)}
      (told : records = registeredStory id topic reply ++ later) :
      ∃ fate, session.Meets id call command fate := by
    subst told
    rw [waits] at sends
    cases sends
    refine ⟨.replied, .replied ((processed (.ok reply)).mp ?_) ((replied (.ok reply)).mp ?_)
      fun final => absurd waits (final topic limit)⟩
    · simp [registeredStory, processedStory]
    · simp [registeredStory, processedStory]
  cases story with
  | fresh => simp at settled
  | seeking => simp at settled
  | queued => simp at settled
  | processed => simp [processedStory] at settled
  | overtaken => simp at settled
  | asking => simp at settled
  | answered plain =>
      cases plain.symm.trans sends
  | listening => exact registered rfl (List.append_nil _).symm
  | deserted => exact registered rfl rfl
  | signalled => exact registered rfl rfl
  | expired => exact registered rfl rfl
  | desertedTold => exact registered rfl rfl
  | refused own late =>
      refine ⟨.barred, .barred (fun inside => ?_) (late.resolve_right ?_) rfl⟩
      · have member := entered.mpr inside
        simp at member
      · simp [present]
  | @replied request signal own response millisecond sent final =>
      obtain rfl : own = command := Option.some.inj (sent.symm.trans sends)
      refine ⟨.replied, .replied ((processed response).mp ?_) ((replied response).mp ?_)
        fun _ => ⟨millisecond, rfl⟩⟩
      · simp [processedStory]
      · simp [processedStory]
  | @overtakenTold request signal own result millisecond sent late set =>
      obtain rfl : own = command := Option.some.inj (sent.symm.trans sends)
      have told : (Stage.finished (terminalAnswer request result) millisecond : Stage V)
          = .finished (.failed (terminalError result)) millisecond := by
        rw [terminalAnswer_of_command sent]
      refine ⟨.overtaken, .overtaken (entered.mp (by simp)) (early _) (fun response served => ?_)
        late (outcome_of_result present set) told⟩
      have member := (processed response).mpr served
      simp at member
  | cancelled => exact absurd rfl kept
  | processedLate => exact absurd rfl kept
  | destroyed => exact absurd rfl kept

theorem Chronicle.entered_of_processed (chronicle : session.Chronicle) {response : Response V}
    (processed : .processed { caller := id, command, response } ∈ session.happenings) :
    .entered { caller := id, command } ∈ session.happenings := by
  have listed := mem_ledger.mpr processed
  exact mem_arrivals.mp (chronicle.ordered.subset (List.mem_map_of_mem listed))

/-- No command meets two fates. -/
theorem Meets.unique (chronicle : session.Chronicle) {first second : Fate}
    (meetsFirst : session.Meets id call command first)
    (meetsSecond : session.Meets id call command second) : first = second := by
  cases meetsFirst with
  | replied processed =>
      cases meetsSecond with
      | replied => rfl
      | barred outside => exact absurd (chronicle.entered_of_processed processed) outside
      | overtaken entered early unprocessed => exact absurd processed (unprocessed _)
  | barred outside =>
      cases meetsSecond with
      | replied processed => exact absurd (chronicle.entered_of_processed processed) outside
      | barred => rfl
      | overtaken entered => exact absurd entered outside
  | overtaken entered early unprocessed =>
      cases meetsSecond with
      | replied processed => exact absurd processed (unprocessed _)
      | barred outside => exact absurd entered outside
      | overtaken => rfl

/-! ## No half-done command -/

/-- The inputs of a journal without the records about a call are those of the others. -/
theorem inputsOf_others (happenings : List (Happening V)) (id : Nat) :
    inputsOf (happenings.filter fun happening => !happening.isAbout id)
      = (inputsOf happenings).filter fun input => input.caller != id := by
  induction happenings with
  | nil => rfl
  | cons first rest inductionHypothesis =>
      unfold inputsOf at inductionHypothesis ⊢
      rw [List.filter_cons]
      cases told : first.input? with
      | none =>
          rw [List.filterMap_cons_none told, ← inductionHypothesis]
          split
          · rw [List.filterMap_cons_none told]
          · rfl
      | some input =>
          have about : first.isAbout id = (input.caller == id) := by
            rw [Happening.isAbout, subject?_of_input? told]
            rfl
          rw [List.filterMap_cons_some told, List.filter_cons, about, ← inductionHypothesis]
          split
          case isTrue other =>
            rw [List.filterMap_cons_some told, if_pos (by simpa using other)]
          case isFalse own => rw [if_neg (by simpa using own)]

/-- A scene is what the others' inputs make of it, if a call had no command processed. -/
theorem ExplainedBy.without (explained : session.ExplainedBy session.inputs)
    (unprocessed : ∀ entry, .processed entry ∈ session.happenings → entry.caller ≠ id) :
    session.ExplainedBy
      (inputsOf (session.happenings.filter fun happening => !happening.isAbout id)) := by
  have silent : ∀ envelope, .command envelope ∈ session.inputs → envelope.caller ≠ id := by
    intro envelope member
    obtain ⟨happening, recorded, told⟩ := List.mem_filterMap.mp member
    cases happening <;> cases told
    exact unprocessed _ recorded
  obtain ⟨outcomes, agrees⟩ := Reference.outcomes_of_silenced session.inputs silent
  rw [inputsOf_others]
  exact {
    ledger := explained.ledger.trans (by rw [outcomes]; rfl)
    props := fun runs => (explained.props runs).trans agrees.props
    waiters := fun runs topic => (explained.waiters runs topic).trans (by rw [agrees.waiting]; rfl)
    signals := fun id call found => (explained.signals id call found).trans
      (by rw [agrees.taken]; rfl)
    cleanups := explained.cleanups.trans (by rw [outcomes]; rfl)
    events := explained.events.trans (by rw [outcomes]; rfl) }

theorem Meets.unprocessed (chronicle : session.Chronicle) {fate : Fate}
    (meets : session.Meets id call command fate) (found : session.calls[id]? = some call)
    (sends : call.request.command? = some command) (failed : fate ≠ .replied) :
    ∀ entry, .processed entry ∈ session.happenings → entry.caller ≠ id := by
  rintro ⟨caller, own, response⟩ processed rfl
  have entered := chronicle.entered_of_processed processed
  have sent := (chronicle.stories _ call found).sends_of_entered ((mem_recordsOf rfl).mpr entered)
  obtain rfl : command = own := Option.some.inj (sends.symm.trans sent)
  cases meets with
  | replied => exact failed rfl
  | barred outside => exact outside entered
  | overtaken _ _ unprocessed => exact unprocessed response processed

/-! ## At rest -/

/-- No task of the scene itself is ready. -/
def AtRest (session : Session V) : Prop :=
  .backend ∉ session.agenda.ready ∧ ∀ id, .call id ∉ session.agenda.ready

/-- At rest a running backend has nothing to do, and one that does not run has ended. -/
theorem AtRest.backend (rest : session.AtRest) (attentive : session.Attentive none)
    (steered : session.Steered) (present : session.control.lost = false) :
    session.backendRuns = true ∧ session.control.ending = false ∧ session.mailbox.queued = []
      ∨ session.backendRuns = false ∧ session.control.ending = true
        ∧ session.result?.isSome = true := by
  have stuck : ¬session.BackendCanGoOn := fun can => rest.1 (attentive.backend can (by simp))
  cases runs : session.backendRuns with
  | true =>
      refine .inl ⟨rfl, ?_, ?_⟩
      · cases ending : session.control.ending with
        | false => rfl
        | true =>
            exact absurd ⟨runs, .inr (.inl ((steered.running runs).2.2.2 ending))⟩ stuck
      · by_contra waiting
        exact stuck ⟨runs, .inr (.inr waiting)⟩
  | false =>
      refine .inr ⟨rfl, ?_⟩
      rcases halted_cases runs with returned | lost
      · obtain ⟨set, ending, -⟩ := steered.returned returned
        refine ⟨ending, ?_⟩
        obtain ⟨result, stored⟩ := Option.isSome_iff_exists.mp set
        simp [result?, Supervision.Control.result?, stored]
      · rw [(steered.lost lost).1] at present
        cases present

/-- At rest nobody looks for a slot any more. -/
theorem AtRest.unsought (rest : session.AtRest) (attentive : session.Attentive none)
    (steered : session.Steered) (chronicle : session.Chronicle)
    (present : session.control.lost = false) : ¬session.Seeks id := by
  have stuck {id : Nat} {call : Call V} (found : session.calls[id]? = some call) :
      ¬session.CanGoOn id call := fun can => rest.2 id (attentive.calls id call found can (by simp))
  have lines := attentive.lines
  have ungranted : session.mailbox.granted = [] := by
    refine List.eq_nil_iff_forall_not_mem.mpr fun other granted => ?_
    obtain ⟨call, found, seeks⟩ := lines.sought other (List.mem_append_left _ granted)
    exact stuck found (.enters seeks (.inr granted))
  rintro ⟨call, found, seeks⟩
  rcases rest.backend attentive steered present with ⟨runs, -, empty⟩ | ⟨-, ending, -⟩
  · have placed := lines.placed (chronicle.running runs).1 id ⟨call, found, seeks⟩
    rw [ungranted, List.nil_append] at placed
    have full := lines.full (List.ne_nil_of_mem placed)
    have room := lines.capacity
    simp only [Mailbox.free, empty, ungranted, List.length_nil] at full
    omega
  · exact stuck found (.enters seeks (.inl ending))

/-- A scene at rest has dealt with every command that was not given up. -/
theorem Story.over_at_rest (story : Story session id call (session.recordsOf id))
    (found : session.calls[id]? = some call) (attentive : session.Attentive none)
    (steered : session.Steered) (chronicle : session.Chronicle)
    (sends : call.request.command? = some command) (kept : call.stage ≠ .dropped)
    (present : session.control.lost = false) (rest : session.AtRest) : session.CommandOver id := by
  have stuck : ¬session.CanGoOn id call := fun can =>
    rest.2 id (attentive.calls id call found can (by simp))
  have backend := rest.backend attentive steered present
  have replied (response : Response V) (member : .replied id response ∈ session.recordsOf id) :
      session.CommandOver id := .inl ⟨response, (mem_recordsOf rfl).mp member⟩
  have answered (answer : Answer V) (member : .answered id answer ∈ session.recordsOf id) :
      session.CommandOver id := .inr ⟨answer, (mem_recordsOf rfl).mp member⟩
  have entered (envelope : Envelope V) (caller : envelope.caller = id) :
      .entered envelope ∈ session.recordsOf id ↔ .entered envelope ∈ session.happenings :=
    mem_recordsOf (congrArg some caller)
  generalize told : session.recordsOf id = records at *
  cases story with
  | fresh => exact absurd (.starts rfl) stuck
  | seeking own =>
      exact absurd ⟨_, found, rfl⟩ (rest.unsought attentive steered chronicle present)
  | @queued request signal reply own sent unanswered =>
      exfalso
      rcases backend with ⟨runs, ongoing, empty⟩ | ⟨-, ending, -⟩
      · -- The mailbox is empty, so its command was processed.
        have arrived : { caller := id, command := own } ∈ session.arrivals :=
          mem_arrivals.mpr ((entered _ rfl).mp (by simp))
        rw [(chronicle.running runs).2, empty, List.append_nil] at arrived
        obtain ⟨entry, processed, same⟩ := List.mem_map.mp arrived
        have caller : entry.caller = id := congrArg Envelope.caller same
        have served := (chronicle.processed (List.mem_map.mpr ⟨entry, processed, caller⟩)).2
        simp [told, Happening.processed?] at served
      · exact stuck (.replies rfl (.inr ending))
  | processed own registers => exact absurd (.replies rfl (.inl (by simp))) stuck
  | overtaken own late =>
      exfalso
      rcases backend with ⟨-, ongoing, -⟩ | ⟨-, -, set⟩
      · obtain ⟨cause, begins, precedes⟩ := late
        have ending := steered.ending_iff.mpr ⟨cause, precedes.subset (by simp), begins⟩
        rw [ongoing] at ending
        cases ending
      · exact stuck (.ends rfl set)
  | asking plain => cases plain.symm.trans sends
  | answered plain => cases plain.symm.trans sends
  | @listening topic limit signal reply =>
      exact replied (.ok reply) (by simp [registeredStory, processedStory])
  | @deserted topic limit signal reply =>
      exact replied (.ok reply) (by simp [registeredStory, processedStory])
  | refused own late => exact answered (.failed .ended) (by simp)
  | @replied request signal own response =>
      exact replied response (by simp [processedStory])
  | @overtakenTold request signal own result =>
      exact answered (terminalAnswer request result) (by simp)
  | signalled => exact answered .done (by simp)
  | @expired topic =>
      exact answered (.failed (.waitedTooLong topic)) (by simp)
  | @desertedTold topic limit signal reply result =>
      exact answered (terminalAnswer (.waitSignal topic limit) result) (by simp)
  | cancelled => exact absurd rfl kept
  | processedLate => exact absurd rfl kept
  | destroyed => exact absurd rfl kept

/-- A command whose caller did not give it up meets exactly one of the three fates as
soon as its caller has a reply or an answer, which is so at the latest when the scene is at
rest; and unless it was replied to, the scene is what it would be without that call. -/
theorem failure_classification {session : Session V} (reachable : Reachable session)
    (present : session.control.lost = false) {id : Nat} {call : Call V} {command : Command V}
    (found : session.calls[id]? = some call) (sends : call.request.command? = some command)
    (kept : call.stage ≠ .dropped) :
    (session.CommandOver id → ∃! fate, session.Meets id call command fate)
      ∧ (session.AtRest → session.CommandOver id)
      ∧ ∀ fate, session.Meets id call command fate → fate ≠ .replied →
          session.ExplainedBy
            (inputsOf (session.happenings.filter fun happening => !happening.isAbout id)) := by
  have chronicle := reachable.passed.chronicle
  have story := chronicle.stories id call found
  refine ⟨fun settled => ?_, fun rest => ?_, fun fate meets failed => ?_⟩
  · obtain ⟨fate, meets⟩ := story.fate sends kept present reachable.passed.entered_early settled
    exact ⟨fate, meets, fun other meetsOther => meetsOther.unique chronicle meets⟩
  · exact story.over_at_rest found reachable.attentive reachable.passed.steered chronicle sends kept
      present rest
  · exact reachable.explained.without (meets.unprocessed chronicle found sends failed)

/-- A stop comes when one command is in the mailbox and another waits for its slot. -/
def stopOvertakes : List (Move Nat) :=
  [.act (.call (.store "n" 1 none)), .act (.call (.store "n" 2 none)), .act (.call .stop),
    .resume (.call 0), .resume (.call 1), .resume (.call 2), .resume .backend,
    .resume (.call 0), .resume (.call 1), .resume (.call 2)]

theorem failure_stopOvertakes :
    (plain.moves stopOvertakes).AtRest
      ∧ ∃ call, (plain.moves stopOvertakes).calls[0]? = some call
        ∧ ∃! fate, (plain.moves stopOvertakes).Meets 0 call (.store { key := "n", value := 1 })
            fate := by
  have ready : (plain.moves stopOvertakes).agenda.ready = [] := by decide +kernel
  have present : (plain.moves stopOvertakes).control.lost = false := by decide +kernel
  have rest : (plain.moves stopOvertakes).AtRest := by simp [AtRest, ready]
  have found : (plain.moves stopOvertakes).calls[0]?
      = some ⟨.store "n" 1 none, .finished (.failed .ended) 0, .closed, .pending⟩ := rfl
  obtain ⟨classified, settles, -⟩ :=
    failure_classification (reachable_plain.moves stopOvertakes) present found rfl nofun
  exact ⟨rest, _, found, classified (settles rest)⟩

end Session

end BoundedScene
