import BoundedScene.Proofs.Limits.Pace

/-!
Contract: nobody who is due is kept waiting, except by a cleanup.

Owns:
- `registeredAt`, the instants at which a caller took the reply to its registration, and
  `Span.expiry?`, the millisecond in which a wait that starts at an instant is up;
- `Origin`, where a call of a later scene comes from;
- `Prompt`: replies are taken at once, waits do not outlast their limits, and the result is
  heard at the instant at which it is stored, all but for a cleanup that keeps the thread busy;
- the proof that timely runs are prompt.

Main statement: `Timed.prompt`.

Does not own: what a call is answered.
-/

namespace BoundedScene

open BoundedScene.Supervision (Control)

/-- The millisecond in which a wait of at most `limit` that starts at an instant is up.  A limit
of zero is no limit. -/
def Span.expiry? (limit : Span) (start : Nat) : Option Nat :=
  if limit.isZero then none else some (({ now := start } : Clock).deadline limit)

theorem Span.lt_expiry? {limit : Span} {start due : Nat}
    (bounded : limit.expiry? start = some due) : start < Clock.instantOf due := by
  unfold Span.expiry? at bounded
  split at bounded
  case isTrue => cases bounded
  case isFalse nonzero =>
    cases bounded
    have positive : 0 < limit.nanoseconds :=
      Nat.pos_of_ne_zero (by simpa [Span.isZero] using nonzero)
    exact Clock.lt_deadline { now := start } positive

namespace Happening

variable {V : Type}

/-- A caller took the reply that it is registered as a waiter, or another good reply. -/
def registers (id : Nat) : Happening V → Bool
  | .replied caller (.ok _) => caller == id
  | _ => false

theorem registers_eq_true {happening : Happening V} {id : Nat} :
    happening.registers id = true ↔ ∃ reply, happening = .replied id (.ok reply) := by
  unfold registers
  split
  case h_1 caller reply =>
    simp only [beq_iff_eq, replied.injEq]
    constructor
    · rintro rfl
      exact ⟨reply, rfl, rfl⟩
    · rintro ⟨_, rfl, -⟩
      rfl
  case h_2 other =>
    simp only [Bool.false_eq_true, false_iff, not_exists]
    rintro reply rfl
    exact other id reply rfl

end Happening

namespace Session

variable {V : Type} {session before after : Session V} {id : Nat} {call : Call V}

/-- The instants at which a caller took a good reply to its command: for a waiter, those at which
its registration was answered. -/
def registeredAt (session : Session V) (id : Nat) : List Nat :=
  (session.journal.filter fun record => record.happening.registers id).map Record.instant

theorem mem_registeredAt {start : Nat} : start ∈ session.registeredAt id
    ↔ ∃ reply, { instant := start, happening := .replied id (.ok reply) } ∈ session.journal := by
  unfold registeredAt
  rw [List.mem_map]
  constructor
  · rintro ⟨⟨instant, happening⟩, member, rfl⟩
    obtain ⟨recorded, registers⟩ := List.mem_filter.mp member
    obtain ⟨reply, rfl⟩ := Happening.registers_eq_true.mp registers
    exact ⟨reply, recorded⟩
  · rintro ⟨reply, recorded⟩
    exact ⟨_, List.mem_filter.mpr ⟨recorded, Happening.registers_eq_true.mpr ⟨reply, rfl⟩⟩, rfl⟩

theorem mem_recordsOf_of_recorded {instant : Nat} {happening : Happening V}
    (about : happening.subject? = some id)
    (recorded : { instant, happening } ∈ session.journal) : happening ∈ session.recordsOf id :=
  (mem_recordsOf about).mpr (List.mem_map_of_mem recorded)

/-- A caller takes one reply at most. -/
theorem Story.registered_once {records : List (Happening V)}
    (story : Story session id call records) :
    (records.filter (Happening.registers id)).length ≤ 1 := by
  induction story with
  | cancelled lived unfinished inductionHypothesis =>
      simpa [Happening.registers] using inductionHypothesis
  | destroyed lived unfinished stopped inductionHypothesis => exact inductionHypothesis
  | @replied request signal command response =>
      cases response <;> simp [processedStory, Happening.registers]
  | _ => simp [registeredStory, processedStory, Happening.registers]

theorem Passed.registeredAt_unique (passed : Passed session) {start start' : Nat}
    (registered : start ∈ session.registeredAt id)
    (registered' : start' ∈ session.registeredAt id) : start = start' := by
  have about : (session.recordsOf id).filter (Happening.registers id)
      = session.happenings.filter (Happening.registers id) := by
    unfold recordsOf
    rw [List.filter_filter]
    refine List.filter_congr fun happening _ => ?_
    cases registers : happening.registers id with
    | false => rfl
    | true =>
        obtain ⟨reply, rfl⟩ := Happening.registers_eq_true.mp registers
        simp [Happening.isAbout, Happening.subject?]
  have few : (session.registeredAt id).length ≤ 1 := by
    have same : (session.registeredAt id).length
        = ((session.recordsOf id).filter (Happening.registers id)).length := by
      rw [about, happenings, List.filter_map, List.length_map]
      exact List.length_map _
    rw [same]
    cases found : session.calls[id]? with
    | some call => exact (passed.chronicle.stories id call found).registered_once
    | none =>
        rw [passed.chronicle.unborn id found]
        exact Nat.zero_le _
  generalize session.registeredAt id = instants at registered registered' few
  cases instants with
  | nil => cases registered
  | cons only rest =>
      have none : rest.length = 0 := Nat.le_zero.mp (Nat.le_of_succ_le_succ few)
      obtain rfl := List.length_eq_zero_iff.mp none
      rw [List.mem_singleton.mp registered, List.mem_singleton.mp registered']

/-! ## Where a call comes from -/

/-- Where a call comes from that is found after a step. -/
inductive Origin (before after : Session V) (id : Nat) (call : Call V) : Prop where
  | kept {old : Call V} (present : before.calls[id]? = some old) (stage : old.stage = call.stage)
      (asks : old.request = call.request) : Origin before after id call
  | made (fresh : call.stage = .fresh) : Origin before after id call
  | givenUp (dropped : call.stage = .dropped) : Origin before after id call
  | turned {old : Call V} (present : before.calls[id]? = some old)
      (same : after = before.resumeCall id) : Origin before after id call

theorem Advance.origin (step : Advance before after) (found : after.calls[id]? = some call) :
    Origin before after id call := by
  have quiet {log : List (Happening V)} {changes : List (CallChange V)} {events : List Event}
      {earlier : Session V} (growth : Evolves log changes events earlier after)
      (calls : earlier.calls = before.calls)
      (unmoved : ∀ change ∈ changes, change.moved? ≠ some id) : Origin before after id call := by
    obtain ⟨old, present, stage, asks⟩ := origin_of_unmoved growth.calls unmoved found
    exact .kept (calls ▸ present) stage asks
  cases step with
  | drifts growth => exact quiet growth rfl (by simp)
  | makes request =>
      by_cases fresh : call.stage = .fresh
      · exact .made fresh
      · obtain ⟨old, present, stage, asks⟩ := origin_of_makeCall found fresh
        exact .kept present stage asks
  | @turns turned turning present =>
      obtain ⟨log, changes, mailbox, turn, growth, -⟩ := before.resumeCall_turnsBy _ _ present
      by_cases own : turned = id
      · subst own
        exact .turned present rfl
      · exact quiet growth rfl (turn.moves_own own)
  | cancels present unfinished =>
      by_cases dropped : call.stage = .dropped
      · exact .givenUp dropped
      · obtain ⟨old, present, stage, asks⟩ := origin_of_cancel present unfinished found dropped
        exact .kept present stage asks
  | opens fresh => exact quiet before.openUp_evolves rfl (by simp)
  | @processes envelope rest serving unstopped undue taken =>
      obtain ⟨backend, -, growth⟩ := serveOne_evolves serving envelope rest
      exact quiet growth rfl (before.unmoved_serveChanges envelope id)
  | ends serving cause => exact quiet cause.evolves rfl (before.unmoved_endChanges id)
  | loses =>
      obtain ⟨old, present, rfl⟩ := origin_of_dropTasks found
      by_cases unfinished : old.isUnfinished = true
      · rw [if_pos unfinished]
        exact .givenUp rfl
      · rw [if_neg unfinished]
        exact .kept present rfl rfl

/-- A call after its turn is what the turn makes of it. -/
theorem applied_turn {old : Call V} (present : before.calls[id]? = some old)
    (found : (before.resumeCall id).calls[id]? = some call) :
    ∃ log changes mailbox, CallTurn before id old log changes mailbox
      ∧ call = Call.applyAll id changes old := by
  obtain ⟨log, changes, mailbox, turn, growth, -⟩ := before.resumeCall_turnsBy id old present
  have same := growth.calls id
  rw [found, show ({ before with mailbox } : Session V).calls[id]? = some old from present] at same
  exact ⟨log, changes, mailbox, turn, Option.some.inj same⟩

theorem asked_after_turn {old : Call V} (present : before.calls[id]? = some old)
    (found : (before.resumeCall id).calls[id]? = some call) : call.request = old.request := by
  obtain ⟨log, changes, mailbox, -, rfl⟩ := applied_turn present found
  exact Call.applyAll_request changes old

/-- Whoever is registered as a waiter waits from then on, with the limit counting from now. -/
theorem registered_turn (found : before.calls[id]? = some call)
    (waiting : call.stage = .awaitingReply) {reply : Reply V}
    (filled : call.reply = .filled (.ok reply)) {topic : String} {limit : Span}
    (asks : call.request = .waitSignal topic limit) :
    ∃ log stage, SignalTurn before.control before.clock id call topic
        (limit.expiry? before.clock.now) log stage
      ∧ Evolves (.replied id (.ok reply) :: log) [.stage id stage] [] before
          (before.resumeCall id) := by
  have same : before.resumeCall id = (before.record (.replied id (.ok reply))).awaitSignal id call
      topic (limit.expiry? before.clock.now) := by
    unfold resumeCall
    rw [found]
    dsimp only
    rw [waiting]
    dsimp only
    unfold awaitReply
    rw [filled]
    dsimp only
    unfold acceptReply
    dsimp only
    rw [asks]
    rfl
  obtain ⟨log, stage, turn, growth⟩ := (before.record (.replied id (.ok reply))).awaitSignal_evolves
    id call topic (limit.expiry? before.clock.now)
  rw [same]
  exact ⟨log, stage, turn, (before.record_evolves (.replied id (.ok reply)) rfl).trans growth⟩

theorem registered_after_turn {old : Call V} (present : before.calls[id]? = some old)
    (waiting : old.stage = .awaitingReply) {reply : Reply V}
    (filled : old.reply = .filled (.ok reply)) {topic : String} {limit : Span}
    (asks : old.request = .waitSignal topic limit)
    (found : (before.resumeCall id).calls[id]? = some call) {deadline : Option Nat}
    (waits : call.stage = .awaitingSignal deadline) :
    before.clock.now ∈ (before.resumeCall id).registeredAt id
      ∧ deadline = limit.expiry? before.clock.now := by
  obtain ⟨log, stage, turn, growth⟩ := registered_turn present waiting filled asks
  have registered : before.clock.now ∈ (before.resumeCall id).registeredAt id := by
    rw [mem_registeredAt, growth.journal]
    exact ⟨reply, List.mem_append_right _ (List.mem_cons_self ..)⟩
  rw [growth.calls, present] at found
  obtain rfl := Option.some.inj found
  replace waits : stage = .awaitingSignal deadline := by simpa [Call.apply] using waits
  cases turn with
  | waits silent ongoing early =>
      cases waits
      exact ⟨registered, rfl⟩
  | overtaken lapsed turn => cases turn <;> cases waits
  | raised => cases waits
  | expired => cases waits

/-- A call that waits for a signal after its turn waited for it before, or is registered in this
turn. -/
theorem waits_after_turn {old : Call V} (present : before.calls[id]? = some old)
    (found : (before.resumeCall id).calls[id]? = some call) {deadline : Option Nat}
    (waits : call.stage = .awaitingSignal deadline) :
    old.stage = .awaitingSignal deadline
      ∨ ∃ topic limit, old.request = .waitSignal topic limit
        ∧ before.clock.now ∈ (before.resumeCall id).registeredAt id
        ∧ deadline = limit.expiry? before.clock.now := by
  obtain ⟨log, changes, mailbox, turn, same⟩ := applied_turn present found
  have staged := waits
  rw [same] at staged
  have unsignalled {control : Control SceneError} {request : Request V}
      {log : List (Happening V)} {stage : Stage V}
      (turn : ResultTurn control id request log stage) (same : stage = .awaitingSignal deadline) :
      False := by
    cases turn <;> cases same
  cases turn with
  | rests => exact .inl staged
  | strays => exact .inl staged
  | stops fresh asks turn => exact (unsignalled turn (by simpa [Call.apply] using staged)).elim
  | waits fresh asks turn => exact (unsignalled turn (by simpa [Call.apply] using staged)).elim
  | aborts => simp [Call.apply] at staged
  | looks => simp [Call.apply] at staged
  | submits opens sends turn => cases turn <;> simp [Call.apply] at staged
  | overtaken waiting lapsed turn =>
      exact (unsignalled turn (by simpa [Call.apply] using staged)).elim
  | asks waiting turn => exact (unsignalled turn (by simpa [Call.apply] using staged)).elim
  | @listens topic limit _ _ stage waiting asks turn =>
      replace staged : stage = .awaitingSignal deadline := by simpa [Call.apply] using staged
      cases turn with
      | waits silent ongoing early =>
          cases staged
          exact .inl waiting
      | overtaken lapsed turn => exact (unsignalled turn staged).elim
      | raised => cases staged
      | expired => cases staged
  | replied waiting filled turn =>
      cases turn with
      | answered => simp [Call.apply] at staged
      | registered _ asks accepted turn =>
          -- `ReplyTurn` does not tell from when on the limit counts.
          subst accepted
          obtain ⟨registered, dated⟩ :=
            registered_after_turn present waiting filled asks found waits
          exact .inr ⟨_, _, asks, registered, dated⟩

/-- A call that waits for a reply after its turn has waited for it before, or its command has
just entered the mailbox. -/
theorem awaitsReply_after_turn {old : Call V} (present : before.calls[id]? = some old)
    (found : (before.resumeCall id).calls[id]? = some call)
    (waits : call.stage = .awaitingReply) :
    old.stage = .awaitingReply ∨ old.stage = .fresh ∨ old.stage = .seekingSlot := by
  obtain ⟨log, changes, mailbox, turn, rfl⟩ := applied_turn present found
  cases turn with
  | rests => exact .inl waits
  | strays => exact .inl waits
  | stops fresh => exact .inr (.inl fresh)
  | waits fresh => exact .inr (.inl fresh)
  | aborts fresh => exact .inr (.inl fresh)
  | looks fresh => exact .inr (.inl fresh)
  | submits opens => exact .inr opens.early.1
  | replied waiting => exact .inl waiting
  | overtaken waiting => exact .inl waiting
  | @listens topic limit deadline log stage waiting asks turn =>
      replace waits : stage = .awaitingReply := by simpa [Call.apply] using waits
      cases turn with
      | overtaken lapsed turn => cases turn <;> cases waits
      | _ => cases waits
  | asks waiting turn => cases turn <;> simp [Call.apply] at waits

/-- Without a backend nobody begins to wait for it. -/
theorem CallTurn.not_underway {log : List (Happening V)} {changes : List (CallChange V)}
    {mailbox : Mailbox (Envelope V)} (turn : CallTurn before id call log changes mailbox)
    (set : settled? before.control ≠ none) (closed : before.mailbox.closed = true)
    (idle : call.stage.isUnderway = false) :
    (Call.applyAll id changes call).stage.isUnderway = false := by
  have told {request : Request V} {log : List (Happening V)} {stage : Stage V}
      (turn : ResultTurn before.control id request log stage) : stage.isUnderway = false := by
    cases turn with
    | waits unset => exact absurd unset set
    | told => rfl
  have misplaced {stage : Stage V} (now : call.stage = stage)
      (underway : stage.isUnderway = true) : False := by
    rw [← now, idle] at underway
    cases underway
  cases turn with
  | rests => exact idle
  | strays => exact idle
  | stops fresh asks turn => simpa [Call.apply] using told turn
  | waits fresh asks turn => simpa [Call.apply] using told turn
  | aborts => simp [Call.apply, Stage.isUnderway]
  | looks => simp [Call.apply, Stage.isUnderway]
  | submits opens sends turn =>
      cases turn with
      | refused => simp [Call.apply, Stage.isUnderway]
      | enters ongoing unclosed =>
          rw [closed] at unclosed
          cases unclosed
      | linesUp => simp [Call.apply, Stage.isUnderway]
  | replied waiting => exact (misplaced waiting rfl).elim
  | overtaken waiting => exact (misplaced waiting rfl).elim
  | listens waiting => exact (misplaced waiting rfl).elim
  | asks waiting => exact (misplaced waiting rfl).elim

theorem Passed.settled_of_halted (passed : Passed session) (halted : session.backendRuns = false) :
    settled? session.control ≠ none := by
  unfold settled? Control.result?
  rcases halted_cases halted with returned | lost
  · obtain ⟨result, set⟩ := Option.isSome_iff_exists.mp (passed.steered.returned returned).1
    simp [set]
  · obtain ⟨gone, unset⟩ := passed.steered.lost lost
    simp [gone, unset]

/-! ## Promptness -/

/-- Nobody who is due is kept waiting, except by a cleanup that keeps the thread busy.

- `past`: every record was made by now;
- `noticed`: no millisecond was noticed before it came;
- `replies`: whoever still waits for its reply does so at the instant at which its command was
  processed;
- `waits`: no wait for a signal has outlasted its limit;
- `dated`: the limit of a wait counts from the answer to its registration;
- `heard`: without a backend, a call is under way only at the instant at which the result was
  stored. -/
structure Prompt (session : Session V) : Prop where
  past : ∀ record ∈ session.journal, record.instant ≤ session.clock.now
  noticed : Clock.instantOf session.clock.noticed ≤ session.clock.now
  replies : ∀ (id : Nat) (call : Call V) (served : Nat) (entry : Processed V),
    session.calls[id]? = some call → call.stage = .awaitingReply →
      { instant := served, happening := .processed entry } ∈ session.journal →
        entry.caller = id → InTime session.journal session.clock.now served
  waits : ∀ (id : Nat) (call : Call V) (due : Nat), session.calls[id]? = some call →
    call.stage = .awaitingSignal (some due) →
      InTime session.journal session.clock.now (Clock.instantOf due)
  dated : ∀ (id : Nat) (call : Call V) (deadline : Option Nat), session.calls[id]? = some call →
    call.stage = .awaitingSignal deadline → ∃ topic limit start,
      call.request = .waitSignal topic limit ∧ start ∈ session.registeredAt id
        ∧ deadline = limit.expiry? start
  heard : session.backendRuns = false → ∀ (id : Nat) (call : Call V),
    session.calls[id]? = some call → call.stage.isUnderway = true → ∃ result,
      { instant := session.clock.now, happening := .ended result } ∈ session.journal
        ∧ session.control.outcome = some result

namespace Paced

theorem journal (paced : Paced before after) : before.journal <+: after.journal := by
  obtain ⟨log, journal, -⟩ := paced.clock
  exact ⟨_, journal.symm⟩

theorem inTime (paced : Paced before after) {instant : Nat}
    (inTime : InTime before.journal before.clock.now instant) :
    InTime after.journal after.clock.now instant := by
  obtain ⟨log, journal, now, -⟩ := paced.clock
  rw [journal, now]
  exact inTime.grow log

theorem registeredAt (paced : Paced before after) {start : Nat}
    (registered : start ∈ before.registeredAt id) : start ∈ after.registeredAt id := by
  rw [mem_registeredAt] at registered ⊢
  obtain ⟨reply, recorded⟩ := registered
  exact ⟨reply, paced.journal.subset recorded⟩

/-- A command is recorded as processed at the end of the step that processes it. -/
theorem processed (paced : Paced before after) {served : Nat} {entry : Processed V}
    (recorded : { instant := served, happening := .processed entry } ∈ after.journal) :
    { instant := served, happening := .processed entry } ∈ before.journal
      ∨ served = after.clock.now := by
  have unprocessed {log : List (Happening V)}
      (happenings : after.happenings = before.happenings ++ log)
      (none : log.filterMap Happening.processed? = []) :
      { instant := served, happening := .processed entry } ∈ before.journal := by
    obtain ⟨own, journal, -⟩ := paced.clock
    rw [journal, List.mem_append] at recorded
    refine recorded.resolve_right fun new => ?_
    have same := List.append_cancel_left (happenings.symm.trans (happenings_of_journal journal))
    have member : entry ∈ log.filterMap Happening.processed? :=
      List.mem_filterMap.mpr ⟨_, same ▸ mem_of_mem_sequence new, rfl⟩
    rw [none] at member
    cases member
  cases paced.step.course with
  | calm calm happenings => exact .inl (unprocessed happenings (Happening.processed_of_calm calm))
  | @serves envelope rest serving unstopped taken served =>
      subst served
      rw [journal_serveOne serving, List.mem_append, List.mem_append, List.mem_singleton]
        at recorded
      rcases recorded with (old | cleaned) | own
      · exact .inl old
      · exact (isByCleanup_of_mem_effect_log (mem_of_mem_sequence cleaned)).elim
      · exact .inr (congrArg Record.instant own)
  | ends serving cause =>
      exact .inl (unprocessed cause.evolves.happenings cause.processed_endLog)
  | loses lost =>
      subst lost
      exact .inl recorded

/-- Without a backend no time passes in a step, and the result stays as it is. -/
theorem still (paced : Paced before after) (halted : before.backendRuns = false) :
    after.clock.now = before.clock.now ∧ after.control.outcome = before.control.outcome := by
  obtain ⟨log, journal, now, -⟩ := paced.clock
  suffices steady : Happening.elapsed log = 0 ∧ after.control.outcome = before.control.outcome by
    rw [now, steady.1, Nat.add_zero]
    exact ⟨rfl, steady.2⟩
  have unserving : ¬before.isServing := fun serving => by
    rw [serving.runs] at halted
    cases halted
  cases paced.step.lapse with
  | idles agenda idles =>
      obtain ⟨added, own, idle⟩ := idles.journal
      have same : added = Record.sequence before.clock.now log :=
        List.append_cancel_left (own.symm.trans journal)
      refine ⟨Happening.elapsed_of_idle fun happening member => ?_, idles.outcome⟩
      rw [← Record.happening_sequence before.clock.now log, ← same, List.mem_map] at member
      obtain ⟨record, listed, rfl⟩ := member
      exact idle record listed
  | opens fresh => simp [backendRuns, fresh] at halted
  | serves serving => exact absurd serving unserving
  | ends serving => exact absurd serving unserving
  | loses lost =>
      subst lost
      cases log with
      | nil => exact ⟨rfl, rfl⟩
      | cons first rest =>
          have length := congrArg List.length journal
          simp [dropTasks, Record.sequence] at length

end Paced

/-- A command of a caller that has not submitted any was not processed. -/
theorem Story.unprocessed_of_early {records : List (Happening V)}
    (story : Story session id call records)
    (early : call.stage = .fresh ∨ call.stage = .seekingSlot) (entry : Processed V) :
    .processed entry ∉ records := by
  cases story with
  | fresh => simp
  | seeking => simp
  | _ => rcases early with fresh | seeks <;> first | cases fresh | cases seeks

namespace Prompt

theorem replies_paced (prompt : before.Prompt) (passed : Passed before)
    (paced : Paced before after) {served : Nat} {entry : Processed V}
    (found : after.calls[id]? = some call) (waits : call.stage = .awaitingReply)
    (recorded : { instant := served, happening := .processed entry } ∈ after.journal)
    (own : entry.caller = id) : InTime after.journal after.clock.now served := by
  rcases paced.processed recorded with old | now
  case inr => exact .of_le (Nat.le_of_eq now.symm)
  cases paced.step.origin found with
  | kept present stage asks =>
      exact paced.inTime (prompt.replies id _ served entry present (stage.trans waits) old own)
  | made fresh => cases fresh.symm.trans waits
  | givenUp dropped => cases dropped.symm.trans waits
  | turned present same =>
      subst same
      rcases awaitsReply_after_turn present found waits with before | early
      · exact paced.inTime (prompt.replies id _ served entry present before old own)
      · have processed : .processed entry ∈ before.recordsOf id :=
          mem_recordsOf_of_recorded (congrArg some own) old
        exact absurd processed
          ((passed.chronicle.stories id _ present).unprocessed_of_early early entry)

theorem waits_paced (prompt : before.Prompt) (paced : Paced before after) {due : Nat}
    (found : after.calls[id]? = some call) (waits : call.stage = .awaitingSignal (some due)) :
    InTime after.journal after.clock.now (Clock.instantOf due) := by
  refine paced.inTime ?_
  cases paced.step.origin found with
  | kept present stage asks => exact prompt.waits id _ due present (stage.trans waits)
  | made fresh => cases fresh.symm.trans waits
  | givenUp dropped => cases dropped.symm.trans waits
  | turned present same =>
      subst same
      rcases waits_after_turn present found waits with before | ⟨topic, limit, -, -, bounded⟩
      · exact prompt.waits id _ due present before
      · exact .of_le (Nat.le_of_lt (Span.lt_expiry? bounded.symm))

theorem dated_paced (prompt : before.Prompt) (paced : Paced before after)
    {deadline : Option Nat} (found : after.calls[id]? = some call)
    (waits : call.stage = .awaitingSignal deadline) : ∃ topic limit start,
      call.request = .waitSignal topic limit ∧ start ∈ after.registeredAt id
        ∧ deadline = limit.expiry? start := by
  have known {old : Call V} (present : before.calls[id]? = some old)
      (waited : old.stage = .awaitingSignal deadline) (asks : old.request = call.request) :
      ∃ topic limit start, call.request = .waitSignal topic limit
        ∧ start ∈ after.registeredAt id ∧ deadline = limit.expiry? start := by
    obtain ⟨topic, limit, start, asked, registered, dated⟩ :=
      prompt.dated id old deadline present waited
    exact ⟨topic, limit, start, asks.symm.trans asked, paced.registeredAt registered, dated⟩
  cases paced.step.origin found with
  | kept present stage asks => exact known present (stage.trans waits) asks
  | made fresh => cases fresh.symm.trans waits
  | givenUp dropped => cases dropped.symm.trans waits
  | turned present same =>
      subst same
      have asks := asked_after_turn present found
      rcases waits_after_turn present found waits with
        before | ⟨topic, limit, asked, registered, dated⟩
      · exact known present before asks.symm
      · exact ⟨topic, limit, _, asks.trans asked, registered, dated⟩

theorem heard_paced (prompt : before.Prompt) (passed : Passed before)
    (paced : Paced before after) (halted : after.backendRuns = false)
    (found : after.calls[id]? = some call) (underway : call.stage.isUnderway = true) :
    ∃ result, { instant := after.clock.now, happening := .ended result } ∈ after.journal
      ∧ after.control.outcome = some result := by
  cases runs : before.backendRuns with
  | true =>
      cases paced.step.course with
      | calm calm happenings control visiting limits props subscriptions backend =>
          rcases backend with same | ⟨-, ran⟩
          · unfold backendRuns at runs halted
            rw [same, runs] at halted
            cases halted
          · rw [ran] at halted
            cases halted
      | serves serving unstopped taken served =>
          subst served
          rw [(serveOne_isServing serving _ _).runs] at halted
          cases halted
      | @ends log heralds error serving cause =>
          have growth := cause.evolves
          refine ⟨before.resultAfter log error, ?_, ?_⟩
          · rw [growth.journal, growth.now]
            exact List.mem_append_right _ (mem_sequence_concat _ _ rfl)
          · rw [growth.control, endLog, List.foldl_append]
            rfl
      | loses lost =>
          subst lost
          have finished := isUnfinished_dropTasks found
          unfold Stage.isUnderway at underway
          split at underway <;> simp_all [Call.isUnfinished]
  | false =>
      obtain ⟨still, steady⟩ := paced.still runs
      rw [still, steady]
      have known {old : Call V} (present : before.calls[id]? = some old)
          (underway : old.stage.isUnderway = true) :
          ∃ result, { instant := before.clock.now, happening := .ended result } ∈ after.journal
            ∧ before.control.outcome = some result := by
        obtain ⟨result, stored, set⟩ := prompt.heard runs id old present underway
        exact ⟨result, paced.journal.subset stored, set⟩
      cases paced.step.origin found with
      | kept present stage asks => exact known present (stage ▸ underway)
      | made fresh => simp [fresh, Stage.isUnderway] at underway
      | givenUp dropped => simp [dropped, Stage.isUnderway] at underway
      | @turned old present same =>
          subst same
          cases idle : old.stage.isUnderway with
          | true => exact known present idle
          | false =>
              obtain ⟨log, changes, mailbox, turn, rfl⟩ := applied_turn present found
              rw [turn.not_underway (passed.settled_of_halted runs)
                (passed.chronicle.stopped runs).1 idle] at underway
              cases underway

theorem paced (prompt : before.Prompt) (passed : Passed before) (paced : Paced before after) :
    after.Prompt := by
  obtain ⟨log, journal, now, noticed⟩ := paced.clock
  constructor
  case past =>
    intro record member
    rw [journal, List.mem_append] at member
    rw [now]
    rcases member with old | new
    · exact Nat.le_trans (prompt.past record old) (Nat.le_add_right ..)
    · exact instant_le_of_mem_sequence new
  case noticed =>
    rw [noticed, now]
    exact Nat.le_trans prompt.noticed (Nat.le_add_right ..)
  case replies => exact fun id call served entry => prompt.replies_paced passed paced
  case waits => exact fun id call due => prompt.waits_paced paced
  case dated => exact fun id call deadline => prompt.dated_paced paced
  case heard => exact fun halted id call => prompt.heard_paced passed paced halted

end Prompt

/-- Where neither the backend nor a call is ready, nobody is due. -/
theorem AtRest.not_canGoOn (rest : session.AtRest) (reachable : Reachable session)
    (found : session.calls[id]? = some call) : ¬session.CanGoOn id call := fun can =>
  rest.2 id (reachable.attentive.calls id call found can (by simp))

/-- Without a backend, a call that is under way can hear the result. -/
theorem Prompt.canGoOn (prompt : session.Prompt) (passed : Passed session)
    (halted : session.backendRuns = false) (found : session.calls[id]? = some call)
    (underway : call.stage.isUnderway = true) : session.CanGoOn id call := by
  obtain ⟨result, -, set⟩ := prompt.heard halted id call found underway
  have ended := passed.ended set
  cases stage : call.stage with
  | awaitingReply => exact .replies stage (.inr ended.ending)
  | awaitingSignal deadline => exact .hears stage (.inr ended.ending)
  | awaitingResult => exact .ends stage (by simp [result?, Control.result?, set])
  | _ => simp [stage, Stage.isUnderway] at underway

theorem Prompt.reach (prompt : session.Prompt) (reachable : Reachable session) {instant : Nat}
    (rest : session.AtRest) (near : session.Near instant) :
    (session.move (.reach instant)).Prompt := by
  have now : (session.move (.reach instant)).clock.now = max session.clock.now instant :=
    congrArg Clock.now (Agenda.clock_wakeAll _ _)
  have noticed : (session.move (.reach instant)).clock.noticed
      = max session.clock.noticed
        (max session.clock.now instant / Span.nanosecondsPerMillisecond) :=
    noticed_reach instant session
  constructor
  case past =>
    intro record member
    rw [now]
    exact Nat.le_trans (prompt.past record member) (Nat.le_max_left ..)
  case noticed =>
    rw [now, noticed, Clock.instantOf_le_iff]
    refine Nat.max_le.mpr ⟨Clock.instantOf_le_iff.mp ?_, Nat.le_refl _⟩
    exact Nat.le_trans prompt.noticed (Nat.le_max_left ..)
  case replies =>
    intro id call served entry found waits recorded own
    exfalso
    have story := reachable.passed.chronicle.stories id call found
    have processed : .processed entry ∈ session.recordsOf id :=
      mem_recordsOf_of_recorded (congrArg some own) recorded
    generalize session.recordsOf id = records at story processed
    cases story with
    | queued => simp at processed
    | processed => exact rest.not_canGoOn reachable found (.replies rfl (.inl (by simp)))
    | _ => cases waits
  case waits =>
    intro id call due found waits
    replace found : session.calls[id]? = some call := found
    have armed : call.deadline? = some due := by simp [Call.deadline?, waits]
    have unnoticed : session.clock.noticed < due := Nat.not_le.mp fun lapsed =>
      rest.2 id (reachable.alarmed id call due found armed lapsed (by simp))
    have close := near _ (mem_alarms_of_call found armed) unnoticed
    rw [now]
    intro moment since before
    refine prompt.waits id call due found waits moment since (Nat.not_le.mp fun current => ?_)
    have bound : instant ≤ moment := Nat.le_trans close (Nat.max_le.mpr ⟨current, since⟩)
    exact absurd before (Nat.not_lt.mpr (Nat.max_le.mpr ⟨current, bound⟩))
  case dated => exact prompt.dated
  case heard =>
    intro halted id call found underway
    exact absurd (prompt.canGoOn reachable.passed halted found underway)
      (rest.not_canGoOn reachable found)

/-- Along a timely run nobody who is due is kept waiting, except by a cleanup. -/
theorem Timed.prompt (timed : Timed session) : session.Prompt := by
  induction timed with
  | @created _ _ _ session created =>
      have initial := isInitial_of_create? created
      have none (id : Nat) : session.calls[id]? = Option.none := by simp [initial.calls]
      constructor
      case past => simp [initial.journal]
      case noticed => exact (alert_of_create? created).onCourse.noticed
      case replies => exact fun id call _ _ found => absurd (none id) (by simp [found])
      case waits => exact fun id call _ found => absurd (none id) (by simp [found])
      case dated => exact fun id call _ found => absurd (none id) (by simp [found])
      case heard => exact fun _ id call found => absurd (none id) (by simp [found])
  | paced timed step inductionHypothesis => exact inductionHypothesis.paced timed.passed step
  | waited _ reachable instant rest near inductionHypothesis =>
      exact inductionHypothesis.reach reachable rest near

end Session

end BoundedScene
