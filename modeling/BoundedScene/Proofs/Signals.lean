import BoundedScene.Proofs.Waiting

/-!
Contract: what becomes of the waiters that a signal takes.

Owns:
- `Settles`, everything that a processed signal comes to: the calls that it counts, its
  response, its event, and what becomes of those calls and of the others;
- the proof that a call which was signalled comes to a good end in its next turn;
- `AccountsForSignals`, the signals of a scene against the waits that came to a good end.

Main statement: `signal_accounting`.

Does not own: who waits at which moment.
-/

namespace BoundedScene

open BoundedScene.Supervision (Control)

namespace Session

variable {V : Type} {session before after : Session V} {id : Nat} {call : Call V}

/-! ## What a signal comes to -/

/-- A call that was signalled: it came to a good end, or it was given up before, or its
turn is due and brings it to a good end. -/
inductive Roused (session : Session V) (id : Nat) (call : Call V) : Prop where
  | answered {millisecond : Nat} (done : call.stage = .finished .done millisecond)
  | givenUp (dropped : call.stage = .dropped)
      (cause : .cancelled id ∈ session.happenings ∨ session.backendRuns = false)
  | due (unfinished : call.isUnfinished = true) (ready : .call id ∈ session.agenda.ready)
      (next : ∃ answered millisecond, (session.move (.resume (.call id))).calls[id]? = some answered
        ∧ answered.stage = .finished .done millisecond)

/-- Nothing changes about the calls but those of `waiters` and that of `caller`, nor about
who listens to another topic. -/
structure SparesOthers (topic : String) (caller : Nat) (waiters : List Nat)
    (before after : Session V) : Prop where
  calls : ∀ id : Nat, id ∉ waiters → id ≠ caller → after.calls[id]? = before.calls[id]?
  topics : ∀ name, name ≠ topic →
    (after.subscriptions.waiters name).filter after.listens
      = (before.subscriptions.waiters name).filter before.listens

/-- What a processed signal comes to, whose record follows the records `early`.

- `counted`: `waiters` are the calls that still wait for the topic;
- `response`: the signal fails just if there is none;
- `told`: its caller is told so;
- `event`: else its event, which follows that of the start and those of the commands
  before it, tells their number;
- `roused`: each of them is a wait for the topic, and comes to a good end;
- `others`: every other call is left alone. -/
structure Settles (session : Session V) (topic : String) (early : List (Happening V))
    (entry : Processed V) (waiters : List Nat) : Prop where
  once : waiters.Nodup
  counted : ∀ id, id ∈ waiters ↔ StillWaits topic early id
  response : entry.response = if waiters = [] then .error (.noSubscriber topic) else .ok .done
  told : ∀ (call : Call V) answer millisecond, session.calls[entry.caller]? = some call →
    call.stage = .finished answer millisecond → answer = responseAnswer entry.response
  event : waiters ≠ [] →
    session.backendEvents[(early.filterMap Happening.processed?).length + 1]?
      = some { kind := .signalDelivered, topic := some topic
               count := some (Event.saturate waiters.length) }
  roused : ∀ id ∈ waiters, ∃ call limit, session.calls[id]? = some call
    ∧ call.request = .waitSignal topic limit ∧ session.Roused id call
  others : ∃ before rest, session.Moment early entry before rest
    ∧ SparesOthers topic entry.caller waiters before (before.serveOne entry.envelope rest)

/-- A signal on a topic, processed after the records `early`, counted a call. -/
def Counts (session : Session V) (topic : String) (early : List (Happening V)) (id : Nat) : Prop :=
  (∃ entry late, session.happenings = early ++ .processed entry :: late
    ∧ entry.command = .signal topic) ∧ StillWaits topic early id

/-- The signals of a scene against the waits.

- `settled`: every processed signal counts the calls that still wait, and they are those
  that come to a good end;
- `heard`: a wait that came to a good end was counted by exactly one signal;
- `unmissed`: a wait whose registration entered the mailbox before a signal, and which was
  not told that it waited too long, nor cancelled, nor counted before, is counted by that
  signal. -/
structure AccountsForSignals (session : Session V) : Prop where
  settled : ∀ topic early entry late,
    session.happenings = early ++ .processed entry :: late → entry.command = .signal topic →
      ∃ waiters, session.Settles topic early entry waiters
  heard : ∀ (id : Nat) call topic limit millisecond, session.calls[id]? = some call →
    call.request = .waitSignal topic limit → call.stage = .finished .done millisecond →
      ∃! early, session.Counts topic early id
  unmissed : ∀ topic early entry late (id : Nat),
    session.happenings = early ++ .processed entry :: late → entry.command = .signal topic →
      [.entered { caller := id, command := .subscribe topic }, .entered entry.envelope].Sublist
        session.happenings →
      .answered id (.failed (.waitedTooLong topic)) ∉ early → .cancelled id ∉ early →
      (∀ earlier, earlier <+: early → session.Counts topic earlier id → earlier = early) →
        StillWaits topic early id

/-! ## The calls that were signalled -/

theorem request_of_subscribe {request : Request V} {topic : String}
    (sends : request.command? = some (.subscribe topic)) :
    ∃ limit, request = .waitSignal topic limit := by
  cases request <;> cases sends
  exact ⟨_, rfl⟩

/-- A call that is about to hear its signal. -/
def Hears (call : Call V) : Prop :=
  call.signal = .raised
    ∧ (call.stage = .awaitingReply ∧ call.reply = .filled (.ok .done)
      ∨ ∃ deadline, call.stage = .awaitingSignal deadline)

/-- A registered waiter that was signalled has heard it, was given up or is about to hear
it. -/
theorem Story.hears {records : List (Happening V)} (story : Story session id call records)
    {topic : String} {limit : Span} (waits : call.request = .waitSignal topic limit)
    (registered : .processed (.registration topic id) ∈ records) (raised : call.signal = .raised) :
    (∃ millisecond, call.stage = .finished .done millisecond)
      ∨ call.stage = .dropped ∧ (.cancelled id ∈ records ∨ session.backendRuns = false)
      ∨ Hears call := by
  cases story with
  | @processed request signal command response sends registers =>
      have own : command = .subscribe topic := by
        cases waits
        cases sends
        rfl
      exact .inr (.inr ⟨raised, .inl ⟨rfl, congrArg _ (registers topic own)⟩⟩)
  | listening => exact .inr (.inr ⟨raised, .inr ⟨_, rfl⟩⟩)
  | signalled => exact .inl ⟨_, rfl⟩
  | cancelled => exact .inr (.inl ⟨rfl, .inl (by simp)⟩)
  | processedLate => exact .inr (.inl ⟨rfl, .inl (by simp)⟩)
  | destroyed lived unfinished stopped => exact .inr (.inl ⟨rfl, .inr stopped⟩)
  | deserted unsignalled => exact absurd raised unsignalled
  | desertedTold unsignalled => exact absurd raised unsignalled
  | replied sends final => exact absurd waits (final topic limit)
  | expired => cases raised
  | _ => simp at registered

theorem SignalTurn.answers_raised {control : Control SceneError} {clock : Clock} {topic : String}
    {deadline : Option Nat} {log : List (Happening V)} {stage : Stage V}
    (turn : SignalTurn control clock id call topic deadline log stage)
    (raised : call.signal = .raised) : ∃ millisecond, stage = .finished .done millisecond := by
  cases turn with
  | raised => exact ⟨_, rfl⟩
  | overtaken lapsed => simp [raised] at lapsed
  | expired silent => simp [raised] at silent
  | waits silent => simp [raised] at silent

/-- The signal goes before the end of the scene and before the limit of the wait. -/
theorem CallTurn.answers_raised {log : List (Happening V)} {changes : List (CallChange V)}
    {mailbox : Mailbox (Envelope V)} (turn : CallTurn before id call log changes mailbox)
    {topic : String} {limit : Span} (waits : call.request = .waitSignal topic limit)
    (hears : Hears call) :
    ∃ millisecond, (Call.applyAll id changes call).stage = .finished .done millisecond := by
  obtain ⟨raised, stage⟩ := hears
  cases turn with
  | replied waiting filled turn =>
      cases turn with
      | answered final =>
          simp [waiting, filled] at stage
          simp [waitsOn, waits, stage] at final
      | registered deadline asks accepted turn =>
          simpa [Call.apply] using turn.answers_raised raised
  | listens waiting asks turn => simpa [Call.apply] using turn.answers_raised raised
  | rests resting =>
      exfalso
      rcases stage with ⟨awaits, filled⟩ | ⟨deadline, awaits⟩
      · simp [Call.isUnfinished, awaits, filled] at resting
      · simp [Call.isUnfinished, Call.awaitsReply, awaits] at resting
  | strays stray =>
      exfalso
      rcases stray with ⟨seeks, -⟩ | ⟨deadline, -, other⟩
      · simp [seeks] at stage
      · exact other topic limit waits
  | overtaken waiting lapsed => simp_all
  | submits opens =>
      exfalso
      rcases opens.early.1 with fresh | seeks
      · simp [fresh] at stage
      · simp [seeks] at stage
  | _ => simp_all

theorem Reachable.roused (reachable : Reachable session) {topic : String} {limit : Span}
    (found : session.calls[id]? = some call) (waits : call.request = .waitSignal topic limit)
    (registered : .processed (.registration topic id) ∈ session.happenings)
    (raised : call.signal = .raised) : session.Roused id call := by
  have story := reachable.passed.chronicle.stories id call found
  have own : .processed (.registration topic id) ∈ session.recordsOf id :=
    (mem_recordsOf rfl).mpr registered
  rcases story.hears waits own raised with ⟨millisecond, done⟩ | ⟨dropped, cause⟩ | hears
  · exact .answered done
  · exact .givenUp dropped (cause.imp_left (mem_recordsOf rfl).mp)
  · have can : session.CanGoOn id call ∧ call.isUnfinished = true := by
      rcases hears with ⟨-, ⟨awaits, filled⟩ | ⟨deadline, awaits⟩⟩
      · exact ⟨.replies awaits (.inl (by simp [filled])), by simp [Call.isUnfinished, awaits]⟩
      · exact ⟨.hears awaits (.inl (by simp [raised])), by simp [Call.isUnfinished, awaits]⟩
    refine .due can.2 (reachable.attentive.calls id call found can.1 (by simp)) ?_
    have dequeued : (session.dequeue (.call id)).calls[id]? = some call := found
    obtain ⟨log, changes, mailbox, turn, growth, -⟩ :=
      (session.dequeue (.call id)).resumeCall_turnsBy id call dequeued
    obtain ⟨millisecond, done⟩ := turn.answers_raised waits hears
    exact ⟨_, millisecond, (growth.calls id).trans (by rw [dequeued]; rfl), done⟩

/-- Whoever is not registered by its command is answered with the reply to it. -/
theorem Story.answer_of_processed {records : List (Happening V)}
    (story : Story session id call records) {entry : Processed V}
    (processed : .processed entry ∈ records) (final : ∀ topic, entry.command ≠ .subscribe topic)
    {answer : Answer V} {millisecond : Nat} (finished : call.stage = .finished answer millisecond) :
    answer = responseAnswer entry.response := by
  cases story with
  | answered => simp at processed
  | refused => simp at processed
  | overtakenTold => simp at processed
  | replied =>
      obtain rfl : entry = _ := by simpa [processedStory] using processed
      cases finished
      rfl
  | signalled =>
      obtain rfl : entry = _ := by simpa [registeredStory, processedStory] using processed
      exact absurd rfl (final _)
  | expired =>
      obtain rfl : entry = _ := by simpa [registeredStory, processedStory] using processed
      exact absurd rfl (final _)
  | desertedTold =>
      obtain rfl : entry = _ := by simpa [registeredStory, processedStory] using processed
      exact absurd rfl (final _)
  | _ => cases finished

/-! ## The moment of a signal -/

section Moment

variable {early late : List (Happening V)} {entry : Processed V} {topic : String}
  {rest : Mailbox (Envelope V) × Option Nat}

theorem Moment.reference (moment : session.Moment early entry before rest) :
    (before.serveOne entry.envelope rest).reference
      = (before.reference.perform entry.caller entry.command).2 := by
  obtain ⟨backend, -, growth⟩ := serveOne_evolves moment.serving entry.envelope rest
  unfold Session.reference
  rw [inputs_of_happenings growth.happenings, inputsOf_serveLog, Reference.after_concat]
  rfl

theorem Moment.served (moment : session.Moment early entry before rest) :
    Passed (before.serveOne entry.envelope rest) :=
  moment.passed.advance moment.step

theorem Moment.deals (moment : session.Moment early entry before rest) :
    Deals before before.reference entry.caller entry.command :=
  moment.passed.accounted.deals moment.passed.chronicle moment.serving.runs _ _

theorem Moment.counted (moment : session.Moment early entry before rest)
    (signals : entry.command = .signal topic) (id : Nat) :
    id ∈ before.reference.waiting topic ↔ StillWaits topic early id := by
  rw [moment.early_of_signal signals]
  exact moment.passed.mem_waiting_iff moment.ongoing topic id

theorem Moment.response (moment : session.Moment early entry before rest)
    (signals : entry.command = .signal topic) :
    entry.response = if before.reference.waiting topic = [] then .error (.noSubscriber topic)
      else .ok .done := by
  have response : entry.response
      = (before.reference.perform entry.caller entry.command).1.response :=
    (congrArg Processed.response moment.dealt).trans moment.deals.response
  rw [response, signals]
  exact (Reference.perform_signal _ _ _).2.1

/-- Nobody is counted twice by a signal. -/
theorem Moment.once (moment : session.Moment early entry before rest)
    (signals : entry.command = .signal topic) : (before.reference.waiting topic).Nodup := by
  have once := (List.nodup_append.mp moment.served.accounted.once).1
  rw [moment.reference, Reference.taken_perform, signals,
    (Reference.perform_signal _ _ _).1] at once
  exact (List.nodup_append.mp once).2.1

theorem Moment.event (moment : session.Moment early entry before rest) (passed : Passed session)
    (split : session.happenings = early ++ .processed entry :: late)
    (signals : entry.command = .signal topic) (some : before.reference.waiting topic ≠ []) :
    session.backendEvents[(early.filterMap Happening.processed?).length + 1]?
      = .some { kind := .signalDelivered, topic := .some topic
                count := .some (Event.saturate (before.reference.waiting topic).length) } := by
  have same := moment.early_of_signal signals
  have opened : session.happenings.any Happening.isOpening = true := by
    rw [split, List.any_append, same, moment.passed.framed.opened (.inl moment.serving)]
    rfl
  have position : (early.filterMap Happening.processed?).length
      = (Reference.outcomes before.inputs).length := by
    have ledger := congrArg List.length moment.passed.accounted.ledger
    rw [List.length_map] at ledger
    rw [same]
    exact ledger
  have outcomes : ∃ later, Reference.outcomes session.inputs
      = Reference.outcomes before.inputs
        ++ (entry.envelope, (before.reference.perform entry.caller entry.command).1) :: later := by
    unfold inputs
    rw [split, inputsOf_place (show Happening.input? (.processed entry) = _ from rfl),
      Reference.outcomes_append, same]
    exact ⟨_, rfl⟩
  obtain ⟨later, outcomes⟩ := outcomes
  obtain ⟨woken, response, -⟩ := before.reference.perform_signal entry.caller topic
  have told : announcement entry.envelope.command
        (before.reference.perform entry.caller entry.command).1.response
        (before.reference.perform entry.caller entry.command).1.woken
      = { kind := .signalDelivered, topic := .some topic
          count := .some (Event.saturate (before.reference.waiting topic).length) } := by
    rw [show entry.envelope.command = .signal topic from signals, signals, woken, response,
      if_neg some]
    rfl
  rw [passed.accounted.events, overture, if_pos opened, outcomes, position, announcements,
    List.map_append, List.map_cons]
  simp [told]

/-- Whoever is neither signalled nor replied to is left alone. -/
theorem applyAll_of_elsewhere {changes : List (CallChange V)}
    (elsewhere : ∀ change ∈ changes, ∀ call : Call V, Call.apply id call change = call)
    (call : Call V) : Call.applyAll id changes call = call := by
  induction changes with
  | nil => rfl
  | cons first rest inductionHypothesis =>
      rw [Call.applyAll_cons, elsewhere first (List.mem_cons_self ..)]
      exact inductionHypothesis fun change member =>
        elsewhere change (List.mem_cons_of_mem _ member)

theorem Moment.sparesOthers (moment : session.Moment early entry before rest)
    (signals : entry.command = .signal topic) :
    SparesOthers topic entry.caller (before.reference.waiting topic) before
      (before.serveOne entry.envelope rest) := by
  have woken : (before.effect entry.caller entry.command).woken
      = before.reference.waiting topic := by
    rw [moment.deals.woken, signals]
    exact (Reference.perform_signal _ _ _).1
  constructor
  case calls =>
    intro id uncounted other
    obtain ⟨backend, -, growth⟩ := serveOne_evolves moment.serving entry.envelope rest
    have untouched (call : Call V) :
        Call.applyAll id (before.serveChanges entry.envelope) call = call := by
      refine applyAll_of_elsewhere (fun change member call => ?_) call
      rcases List.mem_append.mp member with signalled | replied
      · obtain ⟨waiter, taken, rfl⟩ := List.mem_map.mp signalled
        have differs : waiter ≠ id := fun same => uncounted (by
          rw [← woken, ← same]
          exact taken)
        exact if_neg fun both => differs both.1
      · rw [List.mem_singleton.mp replied]
        exact if_neg fun both => other both.1.symm
    have calls := growth.calls id
    rw [show Call.applyAll id (before.serveChanges entry.envelope) = (fun call => call) from
      funext untouched, Option.map_id'] at calls
    exact calls
  case topics =>
    intro name other
    have runs := (serveOne_isServing moment.serving entry.envelope rest).runs
    rw [moment.served.listening runs, moment.passed.listening moment.serving.runs,
      moment.reference, signals]
    exact (Reference.perform_signal _ _ _).2.2 name other

end Moment

/-! ## The main statement -/

variable {early late : List (Happening V)} {entry : Processed V} {topic : String}

/-- Whoever was counted by a signal waited for its topic, and was signalled. -/
theorem Passed.raised_of_counted (passed : Passed session)
    (counts : session.Counts topic early id) :
    ∃ call limit, session.calls[id]? = some call ∧ call.request = .waitSignal topic limit
      ∧ .processed (.registration topic id) ∈ session.happenings ∧ call.signal = .raised := by
  obtain ⟨⟨entry, late, split, signals⟩, still⟩ := counts
  obtain ⟨before, rest, moment⟩ := passed.moment split
  have waits : id ∈ (Reference.after (inputsOf early)).waiting topic := by
    rw [moment.early_of_signal signals]
    exact (moment.counted signals id).mpr still
  have taken : id ∈ session.reference.taken :=
    (mem_taken_inputsOf _ _).mpr ⟨early, entry, late, topic, split, signals, waits⟩
  have known := passed.accounted.known id (List.mem_append_left _ taken)
  obtain ⟨⟨call, found⟩, -⟩ := passed.chronicle.processed known
  have raised := (passed.accounted.signals id call found).mpr taken
  obtain ⟨opening, closing, place, -⟩ := still.registered
  have registered : .processed (.registration topic id) ∈ session.happenings := by
    rw [split, place]
    simp
  have entered := passed.chronicle.entered_of_processed registered
  have sends := (passed.chronicle.stories id call found).sends_of_entered
    ((mem_recordsOf rfl).mpr entered)
  obtain ⟨limit, asks⟩ := request_of_subscribe sends
  exact ⟨call, limit, found, asks, registered, raised⟩

/-- Whoever was counted by a signal has its signal. -/
theorem Reachable.roused_of_counted (reachable : Reachable session)
    (counts : session.Counts topic early id) :
    ∃ call limit, session.calls[id]? = some call ∧ call.request = .waitSignal topic limit
      ∧ session.Roused id call := by
  obtain ⟨call, limit, found, asks, registered, raised⟩ :=
    reachable.passed.raised_of_counted counts
  exact ⟨call, limit, found, asks, reachable.roused found asks registered raised⟩

theorem Reachable.settles (reachable : Reachable session)
    (split : session.happenings = early ++ .processed entry :: late)
    (signals : entry.command = .signal topic) :
    ∃ waiters, session.Settles topic early entry waiters := by
  obtain ⟨before, rest, moment⟩ := reachable.passed.moment split
  refine ⟨before.reference.waiting topic, ?_⟩
  constructor
  case once => exact moment.once signals
  case counted => exact moment.counted signals
  case response => exact moment.response signals
  case told =>
    intro call answer millisecond found finished
    have recorded : .processed entry ∈ session.recordsOf entry.caller :=
      (mem_recordsOf rfl).mpr (split ▸ List.mem_append_right _ (List.mem_cons_self ..))
    have story := reachable.passed.chronicle.stories _ call found
    exact story.answer_of_processed recorded (by simp [signals]) finished
  case event => exact moment.event reachable.passed split signals
  case roused =>
    intro id member
    exact reachable.roused_of_counted
      ⟨⟨entry, late, split, signals⟩, (moment.counted signals id).mp member⟩
  case others => exact ⟨before, rest, moment, moment.sparesOthers signals⟩

/-- A call is counted by one signal at most. -/
theorem Chronicle.counts_unique (chronicle : session.Chronicle) {early' : List (Happening V)}
    (counts : session.Counts topic early id) (counts' : session.Counts topic early' id) :
    early = early' := by
  obtain ⟨⟨entry, late, split, signals⟩, still⟩ := counts
  obtain ⟨⟨entry', late', split', signals'⟩, still'⟩ := counts'
  rcases place_of_append (split.symm.trans split') with ⟨middle, rfl, -⟩ | ⟨opening, rfl, tail⟩
  · exact absurd still (chronicle.freed split signals' still')
  · cases opening with
    | nil => exact (List.append_nil _).symm
    | cons head middle =>
        obtain ⟨rfl, -⟩ := List.cons.inj tail
        exact absurd still' (chronicle.freed split' signals still)

/-- A wait that was signalled was counted by a signal on its topic. -/
theorem Passed.counted_of_raised (passed : Passed session)
    (found : session.calls[id]? = some call) {limit : Span}
    (waits : call.request = .waitSignal topic limit) (raised : call.signal = .raised) :
    ∃ early, session.Counts topic early id := by
  have taken := (passed.accounted.signals id call found).mp raised
  obtain ⟨early, entry, late, name, split, signals, listed⟩ := (mem_taken_inputsOf _ _).mp taken
  obtain ⟨before, rest, moment⟩ := passed.moment split
  have still : StillWaits name early id := by
    refine (moment.counted signals id).mp ?_
    rw [moment.early_of_signal signals] at listed
    exact listed
  have counts : session.Counts name early id := ⟨⟨entry, late, split, signals⟩, still⟩
  obtain ⟨own, limit', found', asks, -⟩ := passed.raised_of_counted counts
  cases found.symm.trans found'
  cases waits.symm.trans asks
  exact ⟨early, counts⟩

/-- A wait that came to a good end was counted by a signal on its topic. -/
theorem Passed.counted_of_done (passed : Passed session) (found : session.calls[id]? = some call)
    {limit : Span} (waits : call.request = .waitSignal topic limit) {millisecond : Nat}
    (done : call.stage = .finished .done millisecond) : ∃ early, session.Counts topic early id := by
  have story := passed.chronicle.stories id call found
  exact passed.counted_of_raised found waits ((story.done_iff waits done).mp rfl).1

/-- What entered the mailbox before a command that was processed was processed before
it. -/
theorem Chronicle.processed_before (chronicle : session.Chronicle)
    (split : session.happenings = early ++ .processed entry :: late) {envelope : Envelope V}
    (precedes : [.entered envelope, .entered entry.envelope].Sublist session.happenings) :
    ∃ response, .processed { caller := envelope.caller, command := envelope.command, response }
      ∈ early := by
  obtain ⟨rest, whole⟩ := chronicle.ordered
  have arrived : [envelope, entry.envelope].Sublist session.arrivals :=
    precedes.filterMap Happening.arrival?
  obtain ⟨first, middle, last, place⟩ := exists_split_of_sublist arrived
  -- The processed commands are the first arrivals, in the same order.
  have again : session.arrivals
      = (early.filterMap Happening.processed?).map Processed.envelope ++ entry.envelope
        :: ((late.filterMap Happening.processed?).map Processed.envelope ++ rest) := by
    rw [← whole, ledger, split]
    simp [Happening.processed?]
  have distinct : (session.arrivals.filterMap fun envelope => some envelope.caller).Nodup := by
    rw [List.filterMap_eq_map']
    exact chronicle.distinct
  have place' : session.arrivals = (first ++ envelope :: middle) ++ entry.envelope :: last := by
    rw [place]
    simp
  obtain ⟨same, -, -⟩ := BoundedScene.place_unique distinct rfl again rfl place'
  have member : envelope ∈ (early.filterMap Happening.processed?).map Processed.envelope := by
    rw [same]
    simp
  obtain ⟨own, listed, rfl⟩ := List.mem_map.mp member
  obtain ⟨happening, recorded, told⟩ := List.mem_filterMap.mp listed
  cases happening <;> cases told
  exact ⟨own.response, recorded⟩

/-- A wait that is still on when a signal is processed is not missed by it. -/
theorem Passed.unmissed (passed : Passed session)
    (split : session.happenings = early ++ .processed entry :: late)
    (precedes : [.entered { caller := id, command := .subscribe topic },
      .entered entry.envelope].Sublist session.happenings)
    (patient : .answered id (.failed (.waitedTooLong topic)) ∉ early)
    (kept : .cancelled id ∉ early)
    (uncounted : ∀ earlier, earlier <+: early → session.Counts topic earlier id →
      earlier = early) : StillWaits topic early id := by
  obtain ⟨response, recorded⟩ := passed.chronicle.processed_before split precedes
  obtain rfl := passed.registers (split ▸ List.mem_append_left _ recorded)
  obtain ⟨opening, closing, place⟩ := List.append_of_mem recorded
  refine ⟨⟨opening, closing, place, List.any_eq_false.mpr fun happening member signals => ?_⟩,
    patient, kept⟩
  -- The first signal after the registration counted the call.
  obtain ⟨first, found⟩ : ∃ first, closing.find? (Happening.signals topic) = some first :=
    Option.isSome_iff_exists.mp (List.find?_isSome.mpr ⟨happening, member, signals⟩)
  obtain ⟨signals, silent, rest, rfl, quiet⟩ := List.find?_eq_some_iff_append.mp found
  let earlier := opening ++ .processed (.registration topic id) :: silent
  have longer : early = earlier ++ first :: rest := by
    rw [place]
    simp [earlier, Processed.registration]
  have shorter : earlier <+: early := ⟨first :: rest, longer.symm⟩
  obtain ⟨other, rfl, asks⟩ := Happening.signals_eq_true.mp signals
  have counts : session.Counts topic earlier id := by
    refine ⟨⟨other, rest ++ .processed entry :: late, ?_, asks⟩, ?_⟩
    · rw [split, longer]
      simp
    · refine ⟨⟨opening, silent, rfl, ?_⟩, fun answered => patient (shorter.subset answered),
        fun cancelled => kept (shorter.subset cancelled)⟩
      simpa using quiet
  have same := uncounted earlier shorter counts
  rw [longer] at same
  simp at same

/-- The signals of a scene are accounted for at every moment of every run: each counts the
calls that still wait, fails just if there is none, tells their number, and is heard by
exactly these calls. -/
theorem signal_accounting (reachable : Reachable session) : session.AccountsForSignals := by
  have passed := reachable.passed
  constructor
  case settled => exact fun topic early entry late => reachable.settles
  case heard =>
    intro id call topic limit millisecond found waits done
    obtain ⟨early, counts⟩ := passed.counted_of_done found waits done
    exact ⟨early, counts, fun other counts' => passed.chronicle.counts_unique counts' counts⟩
  case unmissed =>
    exact fun topic early entry late id split _ => passed.unmissed split

/-- Three callers wait, one of them for a millisecond, and one is cancelled.  A signal comes,
the time is up and the scene is asked to stop before the other two have a turn. -/
def signalBeforeStop : List (Move Nat) :=
  [.act (.call (.waitSignal "go" .zero)), .resume (.call 0), .resume .backend, .resume (.call 0),
    .act (.call (.waitSignal "go" (.ofMilliseconds 1))), .resume (.call 1), .resume .backend,
    .resume (.call 1),
    .act (.call (.waitSignal "go" .zero)), .resume (.call 2), .resume .backend, .act (.cancel 2),
    .act (.call (.signal "go")), .resume (.call 3), .resume .backend,
    .reach 1000000, .act (.call .stop), .resume (.call 4),
    .resume (.call 0), .resume (.call 1)]

theorem signal_accounting_signalBeforeStop :
    (plain.moves signalBeforeStop).backendEvents.map Event.count
        = [none, none, none, none, some 2]
      ∧ (plain.moves signalBeforeStop).calls.map (fun call => match call.stage with
          | .finished .done _ => true
          | _ => false) = [true, true, false, false, false]
      ∧ (plain.moves signalBeforeStop).control.ending = true
      ∧ (plain.moves signalBeforeStop).AccountsForSignals :=
  ⟨by decide +kernel, by decide +kernel, by decide +kernel,
    signal_accounting (reachable_plain.moves signalBeforeStop)⟩

end Session

end BoundedScene
