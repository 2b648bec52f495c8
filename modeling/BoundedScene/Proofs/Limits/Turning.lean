import BoundedScene.Proofs.Limits.Promptness

/-!
Contract: the turn in which a call was told something.

Owns:
- `Turning`, the turn of a call that made a record, with the scene before it;
- the proof that a timely run has such a turn for whatever its callers were told;
- `WaitTurn`, all that a registered waiter can do in a turn in which it is told something.

Main statement: `Turning.waitTurn`.

Does not own: which of the waiters is told what.
-/

namespace BoundedScene

open BoundedScene.Supervision (Control)

namespace Happening

variable {V : Type}

/-- A caller took its reply, turned to the terminal result or was answered. -/
def tells (id : Nat) : Happening V → Bool
  | .replied caller _ => caller == id
  | .overtaken caller => caller == id
  | .answered caller _ => caller == id
  | _ => false

theorem untold_of_isByCleanup {happening : Happening V} (byCleanup : happening.isByCleanup)
    (id : Nat) : happening.tells id = false := by
  cases happening <;> first | rfl | cases byCleanup

theorem eq_of_tells {happening : Happening V} {caller id : Nat}
    (byCall : happening.isByCall caller) (told : happening.tells id = true) : caller = id := by
  cases happening <;> first | cases told | exact byCall.symm.trans (by simpa [tells] using told)

end Happening

namespace Session

variable {V : Type} {session before after : Session V} {id : Nat} {call : Call V}
  {early late : List (Record V)} {record : Record V}

/-! ## Turns that made a record -/

/-- A step leaves the request of a call as it is. -/
theorem Advance.asked (step : Advance before after) (found : before.calls[id]? = some call) :
    ∃ now, after.calls[id]? = some now ∧ now.request = call.request := by
  have grown {log : List (Happening V)} {changes : List (CallChange V)} {events : List Event}
      {earlier : Session V} (growth : Evolves log changes events earlier after)
      (calls : earlier.calls[id]? = some call) :
      ∃ now, after.calls[id]? = some now ∧ now.request = call.request :=
    ⟨_, (growth.calls id).trans (by rw [calls]; rfl), Call.applyAll_request changes call⟩
  cases step with
  | drifts growth => exact grown growth found
  | makes request =>
      have inside := (List.getElem?_eq_some_iff.mp found).1
      exact grown (before.makeCall_evolves request) (by rwa [List.getElem?_append_left inside])
  | turns present =>
      obtain ⟨log, changes, mailbox, turn, growth, -⟩ := before.resumeCall_turnsBy _ _ present
      exact grown growth found
  | cancels present unfinished => exact grown (before.cancel_evolves present unfinished).1 found
  | opens fresh => exact grown before.openUp_evolves found
  | @processes envelope rest serving unstopped undue taken =>
      obtain ⟨backend, -, growth⟩ := serveOne_evolves serving envelope rest
      exact grown growth found
  | ends serving cause => exact grown cause.evolves found
  | loses =>
      refine ⟨_, (before.calls_dropTasks id).trans (by rw [found]; rfl), ?_⟩
      dsimp only
      split <;> rfl

/-- Only a turn of its own tells a call something. -/
theorem Advance.tells (step : Advance before after) {log : List (Happening V)}
    (happenings : after.happenings = before.happenings ++ log) {happening : Happening V}
    (member : happening ∈ log) (tells : happening.tells id = true) :
    ∃ call, before.calls[id]? = some call ∧ after = before.resumeCall id := by
  have untold {own : List (Happening V)} (grown : after.happenings = before.happenings ++ own)
      (silent : ∀ happening ∈ own, happening.tells id = false) : False := by
    rw [List.append_cancel_left (happenings.symm.trans grown)] at member
    rw [silent happening member] at tells
    cases tells
  cases step with
  | drifts growth => exact (untold growth.happenings (by simp)).elim
  | makes request => exact (untold (before.makeCall_evolves request).happenings (by simp)).elim
  | @turns turned call found =>
      obtain ⟨own, changes, mailbox, turn, growth, -⟩ := before.resumeCall_turnsBy _ _ found
      rw [List.append_cancel_left (happenings.symm.trans growth.happenings)] at member
      obtain rfl := Happening.eq_of_tells (turn.isByCall happening member) tells
      exact ⟨call, found, rfl⟩
  | cancels found unfinished =>
      exact (untold (before.cancel_evolves found unfinished).1.happenings
        (by simp [Happening.tells])).elim
  | opens fresh =>
      exact (untold before.openUp_evolves.happenings (by simp [Happening.tells])).elim
  | @processes envelope rest serving unstopped undue taken =>
      obtain ⟨backend, -, growth⟩ := serveOne_evolves serving envelope rest
      refine (untold growth.happenings fun happening member => ?_).elim
      rcases List.mem_append.mp member with cleaned | processed
      · exact Happening.untold_of_isByCleanup (isByCleanup_of_mem_effect_log cleaned) id
      · rw [List.mem_singleton.mp processed]
        rfl
  | @ends log heralds error after serving cause =>
      refine (untold cause.evolves.happenings fun happening member => ?_).elim
      rcases List.mem_append.mp member with first | ended
      · rcases List.mem_append.mp first with concluded | torn
        · cases cause with
          | stopped => cases concluded
          | timedOut => rw [List.mem_singleton.mp concluded]; rfl
          | abandoned => rw [List.mem_singleton.mp concluded]; rfl
        · exact Happening.untold_of_isByCleanup (isByCleanup_of_mem_teardownLog torn) id
      · rw [List.mem_singleton.mp ended]
        rfl
  | loses => exact (untold (List.append_nil _).symm (by simp)).elim

/-- The turn of a call that made the record which follows the records `early`. -/
structure Turning (session : Session V) (early : List (Record V)) (record : Record V) (id : Nat)
    (before : Session V) (call : Call V) : Prop where
  timed : Timed before
  found : before.calls[id]? = some call
  recorded : ∃ opening closing, early = before.journal ++ opening
    ∧ (before.resumeCall id).journal = early ++ record :: closing
  later : (before.resumeCall id).journal <+: session.journal
  run : Advances before session
  asked : ∃ now, session.calls[id]? = some now ∧ now.request = call.request

/-- Whatever a call was told, it was told in a turn of its own. -/
theorem Timed.turning (timed : Timed session) (split : session.journal = early ++ record :: late)
    (tells : record.happening.tells id = true) :
    ∃ before call, session.Turning early record id before call := by
  induction timed generalizing late with
  | created created =>
      rw [(isInitial_of_create? created).journal] at split
      cases early <;> cases split
  | @paced before after timed step inductionHypothesis =>
      obtain ⟨log, journal, -, -⟩ := step.clock
      rcases place_of_append (journal.symm.trans split) with ⟨rest, old, -⟩ | ⟨opening, rfl, new⟩
      · obtain ⟨earlier, call, turning⟩ := inductionHypothesis old
        obtain ⟨now, found, same⟩ := turning.asked
        obtain ⟨next, still, again⟩ := step.step.asked found
        exact ⟨earlier, call, { turning with
          later := turning.later.trans step.journal
          run := turning.run.tail step.step
          asked := ⟨next, still, again.trans same⟩ }⟩
      · have member : record.happening ∈ log := by
          refine @mem_of_mem_sequence _ before.clock.now _ _ ?_
          rw [new]
          simp
        obtain ⟨call, found, same⟩ :=
          step.step.tells (happenings_of_journal journal) member tells
        have asked := step.step.asked found
        subst same
        exact ⟨before, call, timed, found, ⟨opening, late, rfl, split⟩, List.prefix_rfl,
          .single step.step, asked⟩
  | @waited session _ _ instant _ _ inductionHypothesis =>
      obtain ⟨earlier, call, turning⟩ := inductionHypothesis split
      exact ⟨earlier, call, { turning with
        run := turning.run.trans (session.reach_advances instant) }⟩

namespace Turning

/-- What the turn records takes no time. -/
theorem within (turning : session.Turning early record id before call)
    {log : List (Happening V)}
    (journal : (before.resumeCall id).journal
      = before.journal ++ Record.sequence before.clock.now log)
    (byCall : ∀ happening ∈ log, happening.isByCall id) :
    record.happening ∈ log ∧ record.instant = before.clock.now
      ∧ ∃ opening, early = before.journal ++ opening ∧ ∀ own ∈ opening, own.happening ∈ log := by
  obtain ⟨opening, closing, rfl, recorded⟩ := turning.recorded
  rw [journal, List.append_assoc] at recorded
  have own := List.append_cancel_left recorded
  have brief : ∀ happening ∈ log, happening.duration = 0 := fun happening member =>
    (Happening.inert_of_isIdle (Happening.isIdle_of_isByCall (byCall happening member))).2
  have member : record ∈ Record.sequence before.clock.now log := by
    rw [own]
    simp
  refine ⟨mem_of_mem_sequence member, instant_of_mem_sequence brief member, opening, rfl,
    fun other listed => @mem_of_mem_sequence _ before.clock.now _ _ ?_⟩
  rw [own]
  exact List.mem_append_left _ listed

/-- The records about the call up to the end of the turn. -/
theorem records (turning : session.Turning early record id before call)
    {log : List (Happening V)}
    (journal : (before.resumeCall id).journal
      = before.journal ++ Record.sequence before.clock.now log) :
    before.recordsOf id ++ log.filter (Happening.isAbout id) <+: session.recordsOf id := by
  rw [← recordsOf_of_happenings id (happenings_of_journal journal)]
  exact (turning.later.map _).filter _

end Turning

/-! ## The turns of a registered waiter -/

/-- A waiter that was registered has a story which begins so. -/
theorem Story.registered_first {records : List (Happening V)}
    (story : Story session id call records) {topic : String} {limit : Span}
    (asks : call.request = .waitSignal topic limit) {reply : Reply V}
    (replied : .replied id (.ok reply) ∈ records) :
    ∃ reply rest, records = registeredStory id topic reply ++ rest := by
  induction story with
  | cancelled lived unfinished inductionHypothesis =>
      obtain ⟨reply, rest, rfl⟩ := inductionHypothesis asks (by simpa using replied)
      exact ⟨reply, rest ++ [.cancelled id], List.append_assoc ..⟩
  | destroyed lived unfinished stopped inductionHypothesis => exact inductionHypothesis asks replied
  | replied sends final => exact absurd asks (final topic limit)
  | listening =>
      cases asks
      exact ⟨_, [], (List.append_nil _).symm⟩
  | deserted =>
      cases asks
      exact ⟨_, _, rfl⟩
  | signalled =>
      cases asks
      exact ⟨_, _, rfl⟩
  | expired =>
      cases asks
      exact ⟨_, _, rfl⟩
  | desertedTold =>
      cases asks
      exact ⟨_, _, rfl⟩
  | _ => simp [processedStory] at replied

/-- Before the command of a call is submitted, nothing but its start is recorded about it. -/
theorem Opening.records {opening : List (Happening V)} (opens : Opening id call.stage opening)
    {records : List (Happening V)} (story : Story session id call records) :
    records ++ opening = [.started id] := by
  generalize now : call.stage = stage at opens
  cases opens <;> cases story <;> first | rfl | cases now

theorem Opening.about {stage : Stage V} {opening : List (Happening V)}
    (opens : Opening id stage opening) : opening.filter (Happening.isAbout id) = opening := by
  cases opens with
  | first => exact Happening.filter_isAbout_cons rfl []
  | again => rfl

theorem Opening.tells_nobody {stage : Stage V} {opening : List (Happening V)}
    (opens : Opening id stage opening) :
    ∀ happening ∈ opening, happening.tells id = false := by
  cases opens <;> simp [Happening.tells]

section Registered

variable {earlier rest : List (Happening V)} {topic : String} {reply : Reply V}
  (story : Story before id call earlier)
include story

/-- In the turn in which it submits its command, whoever is registered later is told nothing. -/
theorem Opening.untold_of_registered {command : Command V} {opening submitted : List (Happening V)}
    {stage : Stage V} {mailbox : Mailbox (Envelope V)} (opens : Opening id call.stage opening)
    (turn : SubmitTurn before.control before.mailbox id command submitted stage mailbox)
    (records : earlier ++ (opening ++ submitted).filter (Happening.isAbout id)
      <+: registeredStory id topic reply ++ rest) :
    ∀ happening ∈ opening ++ submitted, happening.tells id = false := by
  rw [List.filter_append, ← List.append_assoc, opens.about, opens.records story] at records
  intro happening member
  rcases List.mem_append.mp member with first | own
  · exact opens.tells_nobody happening first
  · cases turn with
    | refused =>
        rw [Happening.filter_isAbout_cons rfl] at records
        simp [registeredStory, processedStory] at records
    | enters =>
        rw [List.mem_singleton.mp own]
        rfl
    | linesUp => cases own

/-- Whoever is registered later does not find that the end overtook its command. -/
theorem Story.unlapsed (waiting : call.stage = .awaitingReply) {log : List (Happening V)}
    (records : earlier ++ .overtaken id :: log <+: registeredStory id topic reply ++ rest) :
    call.reply ≠ .closed ∧ call.reply ≠ .pending := by
  obtain ⟨command, -, ⟨rfl, -⟩ | ⟨response, filled, -⟩⟩ := story.of_awaitingReply waiting
  · simp [registeredStory, processedStory] at records
  · simp [filled]

end Registered

/-- What a registered waiter does in a turn in which it is told something: it takes its reply or
not and looks for its signal, before its limit is up but for a cleanup; or it asks for the
terminal result. -/
inductive WaitTurn (before : Session V) (id : Nat) (call : Call V) (topic : String)
    (due? : Option Nat) : List (Happening V) → Prop where
  | listens {opening log : List (Happening V)} {stage : Stage V}
      (quiet : ∀ happening ∈ opening, ∃ reply, happening = .replied id (.ok reply))
      (turn : SignalTurn before.control before.clock id call topic due? log stage)
      (inTime : ∀ due, due? = some due →
        InTime before.journal before.clock.now (Clock.instantOf due))
      (underway : call.stage.isUnderway = true) :
      WaitTurn before id call topic due? (opening ++ log)
  | asks {log : List (Happening V)} {stage : Stage V} (waiting : call.stage = .awaitingResult)
      (turn : ResultTurn before.control id call.request log stage) :
      WaitTurn before id call topic due? log

theorem WaitTurn.isByCall {topic : String} {due? : Option Nat} {log : List (Happening V)}
    (turn : before.WaitTurn id call topic due? log) : ∀ happening ∈ log, happening.isByCall id := by
  cases turn with
  | listens quiet turn =>
      intro happening member
      rcases List.mem_append.mp member with opening | own
      · obtain ⟨reply, rfl⟩ := quiet happening opening
        rfl
      · exact turn.isByCall happening own
  | asks waiting turn => exact turn.isByCall

/-- Every turn in which a registered waiter is told something is one of these. -/
theorem Turning.waitTurn (turning : session.Turning early record id before call)
    (passed : Passed session) {topic : String} {limit : Span}
    (asks : call.request = .waitSignal topic limit) {start : Nat}
    (registered : start ∈ session.registeredAt id) (tells : record.happening.tells id = true) :
    ∃ log, before.WaitTurn id call topic (limit.expiry? start) log
      ∧ (before.resumeCall id).journal
        = before.journal ++ Record.sequence before.clock.now log := by
  obtain ⟨log, changes, mailbox, turn, growth, -⟩ :=
    before.resumeCall_turnsBy id call turning.found
  have journal : (before.resumeCall id).journal
      = before.journal ++ Record.sequence before.clock.now log := growth.journal
  have records := turning.records journal
  have told := (turning.within journal turn.isByCall).1
  have prompt := turning.timed.prompt
  have story := turning.timed.passed.chronicle.stories id call turning.found
  have lasts {start : Nat} (registered : start ∈ (before.resumeCall id).registeredAt id) :
      start ∈ session.registeredAt id := by
    rw [mem_registeredAt] at registered ⊢
    obtain ⟨reply, recorded⟩ := registered
    exact ⟨reply, turning.later.subset recorded⟩
  -- The records about the waiter begin with its registration.
  obtain ⟨reply, rest, whole⟩ : ∃ reply rest,
      session.recordsOf id = registeredStory id topic reply ++ rest := by
    obtain ⟨now, found, same⟩ := turning.asked
    obtain ⟨reply, recorded⟩ := mem_registeredAt.mp registered
    exact (passed.chronicle.stories id now found).registered_first (same.trans asks)
      (mem_recordsOf_of_recorded rfl recorded)
  rw [whole] at records
  cases turn with
  | rests => cases told
  | strays => cases told
  | stops fresh own => cases asks.symm.trans own
  | waits fresh own => cases asks.symm.trans own
  | aborts fresh own => cases asks.symm.trans own
  | looks fresh own => cases asks.symm.trans own
  | submits opens sends turn =>
      cases tells.symm.trans (opens.untold_of_registered story turn records _ told)
  | overtaken waiting lapsed turn =>
      rw [Happening.filter_isAbout_cons rfl] at records
      obtain ⟨unclosed, begun⟩ := story.unlapsed waiting records
      exact lapsed.elim (absurd · unclosed) fun pending => absurd pending.1 begun
  | asks waiting turn => exact ⟨log, .asks waiting turn, journal⟩
  | listens waiting own turn =>
      obtain ⟨_, _, start', asked, registered', rfl⟩ := prompt.dated id call _ turning.found waiting
      cases asks.symm.trans asked
      cases asks.symm.trans own
      have kept := (paced_turn turning.found).registeredAt registered'
      rw [passed.registeredAt_unique registered (lasts kept)]
      refine ⟨[] ++ log, .listens (by simp) turn (fun due bounded => ?_) ?_, journal⟩
      · exact prompt.waits id call due turning.found (waiting.trans (congrArg _ bounded))
      · simp [waiting, Stage.isUnderway]
  | replied waiting filled turn =>
      cases turn with
      | answered final =>
          rw [asks, (story.registered_of_filled waiting asks filled).1] at final
          cases final
      | @registered _ _ reply _ _ _ own accepted turn =>
          subst accepted
          obtain ⟨log, stage, turn, growth⟩ := registered_turn turning.found waiting filled asks
          have now : before.clock.now ∈ (before.resumeCall id).registeredAt id := by
            rw [mem_registeredAt, growth.journal]
            exact ⟨reply, List.mem_append_right _ (List.mem_cons_self ..)⟩
          rw [passed.registeredAt_unique registered (lasts now)]
          have turned : before.WaitTurn id call topic (limit.expiry? before.clock.now)
              ([.replied id (.ok reply)] ++ log) :=
            .listens (by simp) turn
              (fun due bounded => .of_le (Nat.le_of_lt (Span.lt_expiry? bounded)))
              (by simp [waiting, Stage.isUnderway])
          exact ⟨_, turned, growth.journal⟩

end Session

end BoundedScene
