import BoundedScene.Proofs.Limits.Turning
import BoundedScene.Proofs.Quiescence
import BoundedScene.Proofs.Signals

/-!
Contract: the outcome of a wait for a signal, with or without a limit.

Owns:
- `waitOf?`, the topic and the limit of a call that waits for a signal;
- `WaitVerdict`, the three ways in which such a wait is decided, each with what decided it and
  when;
- `WaitOutcome`, everything that is promised to a registered waiter;
- a run in which a signal, a limit and a stop decide one wait each, and one in which a cleanup
  runs across the end of a wait.

Main statement: `bounded_wait_outcome`.

Does not own: how a signal finds its waiters.
-/

namespace BoundedScene

open BoundedScene.Supervision (Control)

namespace Session

variable {V : Type} {session before after : Session V} {id : Nat} {call : Call V}
  {early late : List (Record V)} {opening : List (Happening V)} {instant start : Nat}
  {answer : Answer V} {topic : String} {limit : Span} {due? : Option Nat}

/-- The topic and the limit of a call that waits for a signal. -/
def waitOf? (session : Session V) (id : Nat) : Option (String × Span) :=
  match session.calls[id]? with
  | some { request := .waitSignal topic limit, .. } => some (topic, limit)
  | _ => none

theorem waitOf?_eq_some : session.waitOf? id = some (topic, limit)
    ↔ ∃ call, session.calls[id]? = some call ∧ call.request = .waitSignal topic limit := by
  unfold waitOf?
  constructor
  · intro asks
    split at asks
    case h_1 found =>
      cases asks
      exact ⟨_, found, rfl⟩
    case h_2 => cases asks
  · rintro ⟨⟨request, stage, reply, signal⟩, found, asks⟩
    cases asks
    rw [found]

/-! ## How a wait is decided -/

/-- How a wait for a signal was decided that was answered at an instant, after the records
`early`.

- `signalled`: a signal counted it before it was answered and before the scene started to end,
  and it was answered before its limit was up;
- `ended`: no signal ever counted it, the scene started to end before its limit was up, and it
  was answered at the instant at which the result was stored, with the terminal error;
- `expired`: no signal ever counted it, the scene had not started to end, and it was answered
  when its limit was up.

That a limit is up is seen late if cleanups keep the thread busy, and only then. -/
inductive WaitVerdict (session : Session V) (id : Nat) (topic : String) (due? : Option Nat)
    (early : List (Record V)) (instant : Nat) : Answer V → Prop where
  | signalled {opening : List (Happening V)} {entry : Processed V}
      (counts : session.Counts topic opening id)
      (first : opening ++ [.processed entry] <+: early.map Record.happening)
      (ongoing : ∀ happening ∈ opening, happening.beginsEnding = false)
      (inTime : ∀ due, due? = some due → InTime early instant (Clock.instantOf due)) :
      WaitVerdict session id topic due? early instant .done
  | ended {begun : Nat} {cause : Happening V} {result : Except SceneError Unit}
      (uncounted : ∀ opening, ¬session.Counts topic opening id)
      (began : { instant := begun, happening := cause } ∈ early)
      (begins : cause.beginsEnding = true)
      (inTime : ∀ due, due? = some due → InTime early begun (Clock.instantOf due))
      (stored : { instant, happening := .ended result } ∈ early)
      (final : session.result? = some result) :
      WaitVerdict session id topic due? early instant (.failed (terminalError result))
  | expired {due : Nat} (limited : due? = some due)
      (uncounted : ∀ opening, ¬session.Counts topic opening id)
      (ongoing : ∀ record ∈ early, record.happening.beginsEnding = false)
      (up : Clock.instantOf due ≤ instant)
      (inTime : InTime early instant (Clock.instantOf due)) :
      WaitVerdict session id topic due? early instant (.failed (.waitedTooLong topic))

/-- Whoever was counted by a signal is told nothing else. -/
theorem Passed.done_of_counted (passed : Passed session)
    (counts : session.Counts topic opening id)
    (answered : .answered id answer ∈ session.happenings) : answer = .done := by
  obtain ⟨call, limit, found, asks, registered, raised⟩ := passed.raised_of_counted counts
  have story := passed.chronicle.stories id call found
  obtain ⟨millisecond, finished⟩ := story.finished_of_answered ((mem_recordsOf rfl).mpr answered)
  refine (story.done_iff asks finished).mpr ⟨raised, fun none => ?_⟩
  have served : Processed.registration topic id
      ∈ (session.recordsOf id).filterMap Happening.processed? :=
    List.mem_filterMap.mpr ⟨_, (mem_recordsOf rfl).mpr registered, rfl⟩
  rw [none] at served
  cases served

/-- Signals are processed only before the scene starts to end. -/
theorem Passed.ongoing_of_counted (passed : Passed session)
    (counts : session.Counts topic opening id) :
    ∀ happening ∈ opening, happening.beginsEnding = false := by
  obtain ⟨⟨entry, late, split, signals⟩, -⟩ := counts
  obtain ⟨before, rest, moment⟩ := passed.moment split
  rw [moment.early_of_signal signals]
  intro happening member
  refine Bool.eq_false_iff.mpr fun begins => ?_
  have ending := moment.passed.steered.ending_iff.mpr ⟨happening, member, begins⟩
  cases ending.symm.trans moment.ongoing

/-- A scene that has started to end did so by now. -/
theorem Timed.begun (timed : Timed session) (ending : session.control.ending = true) :
    ∃ begun cause, { instant := begun, happening := cause } ∈ session.journal
      ∧ cause.beginsEnding = true ∧ begun ≤ session.clock.now := by
  obtain ⟨cause, recorded, begins⟩ := timed.passed.steered.ending_iff.mp ending
  obtain ⟨record, listed, rfl⟩ := List.mem_map.mp recorded
  exact ⟨record.instant, record.happening, listed, begins, timed.prompt.past record listed⟩

/-- A backend that has a result has stored it at the instant at which a caller hears it. -/
theorem Timed.stored (timed : Timed session) (found : session.calls[id]? = some call)
    (underway : call.stage.isUnderway = true) {result : Except SceneError Unit}
    (set : settled? session.control = some result) :
    { instant := session.clock.now, happening := .ended result } ∈ session.journal := by
  have halted : session.backendRuns = false := by
    refine Bool.eq_false_iff.mpr fun runs => ?_
    obtain ⟨unset, -, present, -⟩ := timed.passed.steered.running runs
    simp [settled?, Control.result?, unset, present] at set
  obtain ⟨own, recorded, outcome⟩ := timed.prompt.heard halted id call found underway
  obtain rfl : own = result := by simpa [settled?, Control.result?, outcome] using set
  exact recorded

namespace Turning

variable {record : Record V}

theorem request (turning : session.Turning early record id before call)
    (asks : session.waitOf? id = some (topic, limit)) : call.request = .waitSignal topic limit := by
  obtain ⟨own, found, asked⟩ := waitOf?_eq_some.mp asks
  obtain ⟨now, found', same⟩ := turning.asked
  cases found.symm.trans found'
  exact same.symm.trans asked

theorem journal_prefix (turning : session.Turning early record id before call) :
    before.journal <+: early := by
  obtain ⟨opening, closing, rfl, -⟩ := turning.recorded
  exact List.prefix_append ..

theorem happenings_prefix (turning : session.Turning early record id before call) :
    (before.resumeCall id).happenings <+: session.happenings :=
  turning.later.map _

end Turning

/-- Whoever turned to the end of the scene did so before its limit was up, and after the scene
had started to end. -/
theorem Timed.begun_of_overtaken (timed : Timed session)
    (asks : session.waitOf? id = some (topic, limit)) (registered : start ∈ session.registeredAt id)
    (split : session.journal = early ++ { instant, happening := .overtaken id } :: late) :
    ∃ begun cause, { instant := begun, happening := cause } ∈ early ∧ cause.beginsEnding = true
      ∧ ∀ due, limit.expiry? start = some due → InTime early begun (Clock.instantOf due) := by
  have tells : Happening.tells id (.overtaken id : Happening V) = true := beq_self_eq_true id
  obtain ⟨before, call, turning⟩ := timed.turning split tells
  obtain ⟨log, turn, journal⟩ :=
    turning.waitTurn timed.passed (turning.request asks) registered tells
  have told := (turning.within journal turn.isByCall).1
  cases turn with
  | @listens opening log stage quiet turn inTime underway =>
      have overtaken : .overtaken id ∈ log := (List.mem_append.mp told).resolve_left fun early => by
        obtain ⟨reply, same⟩ := quiet _ early
        cases same
      have ending := turn.ending_of_overtaken
        (turning.timed.passed.patient.released id call turning.found) overtaken
      obtain ⟨begun, cause, recorded, begins, past⟩ := turning.timed.begun ending
      exact ⟨begun, cause, turning.journal_prefix.subset recorded, begins, fun due bounded =>
        (inTime due bounded).mono turning.journal_prefix.subset past⟩
  | asks waiting turn => exact absurd told (turn.unovertaken id)

/-- What is recorded about a call besides its answer is recorded before. -/
theorem Chronicle.before_answer (chronicle : session.Chronicle)
    (split : session.journal = early ++ { instant, happening := .answered id answer } :: late)
    {happening : Happening V} (about : happening.subject? = some id)
    (other : happening ≠ .answered id answer) (recorded : happening ∈ session.happenings) :
    happening ∈ early.map Record.happening := by
  have happenings : session.happenings
      = early.map Record.happening ++ .answered id answer :: late.map Record.happening := by
    unfold Session.happenings
    rw [split, List.map_append, List.map_cons]
  rw [happenings, List.mem_append, List.mem_cons] at recorded
  rcases recorded with before | same | after
  · exact before
  · exact absurd same other
  · have silent := chronicle.silent_after_answer happenings
    have listed : happening ∈ (late.map Record.happening).filter (Happening.isAbout id) :=
      List.mem_filter.mpr ⟨after, by simp [Happening.isAbout, about]⟩
    rw [silent] at listed
    cases listed

/-- Whoever the end overtook is told so when the result is stored. -/
theorem Timed.ended (timed : Timed session) (asks : session.waitOf? id = some (topic, limit))
    (registered : start ∈ session.registeredAt id)
    (split : session.journal = early ++ { instant, happening := .answered id answer } :: late)
    (overtaken : .overtaken id ∈ session.happenings) {result : Except SceneError Unit}
    (stored : { instant, happening := .ended result } ∈ early)
    (final : session.result? = some result)
    (told : answer = terminalAnswer (.waitSignal topic limit) result) :
    session.WaitVerdict id topic (limit.expiry? start) early instant answer := by
  obtain rfl : answer = .failed (terminalError result) :=
    told.trans (terminalAnswer_of_command rfl result)
  obtain ⟨turned, listed, same⟩ := List.mem_map.mp
    (timed.passed.chronicle.before_answer split rfl (by simp) overtaken)
  obtain ⟨moment, happening⟩ := turned
  obtain rfl : happening = .overtaken id := same
  obtain ⟨first, last, rfl⟩ := List.append_of_mem listed
  have place : session.journal = first ++ { instant := moment, happening := .overtaken id }
      :: (last
        ++ { instant, happening := .answered id (.failed (terminalError result)) } :: late) := by
    rw [split]
    simp
  obtain ⟨begun, cause, recorded, begins, inTime⟩ := timed.begun_of_overtaken asks registered place
  have kept : first ⊆ first ++ { instant := moment, happening := .overtaken id } :: last :=
    List.subset_append_left ..
  refine .ended (fun opening counts => ?_) (kept recorded) begins
    (fun due bounded => (inTime due bounded).mono kept (Nat.le_refl _)) stored final
  have answered : .answered id (.failed (terminalError result)) ∈ session.happenings :=
    List.mem_map.mpr ⟨_, split ▸ List.mem_append_right _ (List.mem_cons_self ..), rfl⟩
  cases timed.passed.done_of_counted counts answered

/-- A wait for a signal asks for the result only when the end has overtaken it. -/
theorem Story.overtaken_of_asking {records : List (Happening V)}
    (story : Story session id call records) (asks : call.request = .waitSignal topic limit)
    (waiting : call.stage = .awaitingResult) : .overtaken id ∈ records := by
  cases story with
  | asking plain =>
      cases asks
      cases plain
  | overtaken => simp
  | deserted => simp
  | _ => cases waiting

theorem Counts.later (counts : before.Counts topic opening id)
    (later : before.happenings <+: session.happenings) : session.Counts topic opening id := by
  obtain ⟨⟨entry, rest, split, signals⟩, still⟩ := counts
  obtain ⟨more, whole⟩ := later
  refine ⟨⟨entry, rest ++ more, ?_, signals⟩, still⟩
  rw [← whole, split, List.append_assoc, List.cons_append]

/-- As long as the scene goes on when a call has its turn, nothing recorded by then has begun its
end, if nothing in that turn does. -/
theorem Turning.unbegun {record : Record V} {call : Call V} {own : List (Record V)}
    (turning : session.Turning (before.journal ++ own) record id before call)
    (ongoing : before.control.ending = false)
    (calm : ∀ record ∈ own, record.happening.beginsEnding = false) :
    ∀ record ∈ before.journal ++ own, record.happening.beginsEnding = false := by
  intro record member
  rcases List.mem_append.mp member with old | new
  · refine Bool.eq_false_iff.mpr fun begins => ?_
    have ending := turning.timed.passed.steered.ending_iff.mpr
      ⟨_, List.mem_map_of_mem old, begins⟩
    cases ending.symm.trans ongoing
  · exact calm record new

/-- How a registered waiter is answered. -/
theorem Timed.verdict (timed : Timed session) (asks : session.waitOf? id = some (topic, limit))
    (registered : start ∈ session.registeredAt id)
    (split : session.journal = early ++ { instant, happening := .answered id answer } :: late) :
    session.WaitVerdict id topic (limit.expiry? start) early instant answer := by
  have tells : Happening.tells id (.answered id answer : Happening V) = true := beq_self_eq_true id
  obtain ⟨before, call, turning⟩ := timed.turning split tells
  have request := turning.request asks
  obtain ⟨log, turn, journal⟩ := turning.waitTurn timed.passed request registered tells
  obtain ⟨told, now, own, recorded, listed⟩ := turning.within journal turn.isByCall
  obtain rfl : instant = before.clock.now := now
  have happenings := happenings_of_journal journal
  have grown : before.happenings <+: session.happenings :=
    (happenings ▸ List.prefix_append before.happenings log).trans turning.happenings_prefix
  have ended {log : List (Happening V)} {stage : Stage V}
      (turn : ResultTurn before.control id call.request log stage)
      (answered : .answered id answer ∈ log) (underway : call.stage.isUnderway = true)
      (overtaken : .overtaken id ∈ session.happenings) :
      session.WaitVerdict id topic (limit.expiry? start) early before.clock.now answer := by
    cases turn with
    | waits => cases answered
    | told set =>
        have stored := turning.timed.stored turning.found underway set
        refine timed.ended asks registered split overtaken (turning.journal_prefix.subset stored)
          (turning.timed.passed.result_advances turning.run set) ?_
        rw [← request]
        simpa using answered
  cases turn with
  | @listens opening log stage quiet turn inTime underway =>
      have inTime (due : Nat) (bounded : limit.expiry? start = some due) :
          InTime early before.clock.now (Clock.instantOf due) :=
        (inTime due bounded).mono turning.journal_prefix.subset (Nat.le_refl _)
      have answered : .answered id answer ∈ log := (List.mem_append.mp told).resolve_left
        fun first => by
          obtain ⟨reply, same⟩ := quiet _ first
          cases same
      cases turn with
      | raised raised =>
          obtain rfl : answer = .done := by simpa using answered
          obtain ⟨first, counts⟩ :=
            turning.timed.passed.counted_of_raised turning.found request raised
          have counted := counts.later grown
          obtain ⟨⟨entry, rest, place, -⟩, -⟩ := counts
          have heard : first ++ [.processed entry] <+: before.happenings := ⟨rest, by simp [place]⟩
          exact .signalled counted (heard.trans (turning.journal_prefix.map _))
            (timed.passed.ongoing_of_counted counted) inTime
      | overtaken lapsed turn =>
          have overtaken : .overtaken id ∈ (before.resumeCall id).happenings := by
            rw [happenings]
            simp
          exact ended turn (by simpa using answered) underway
            (turning.happenings_prefix.subset overtaken)
      | expired silent ongoing due =>
          obtain rfl : answer = .failed (.waitedTooLong topic) := by simpa using answered
          obtain ⟨due, bounded, noticed⟩ :
              ∃ due, limit.expiry? start = some due ∧ due ≤ before.clock.noticed := by
            cases bounded : limit.expiry? start with
            | none => simp [bounded] at due
            | some millisecond =>
                rw [bounded] at due
                exact ⟨millisecond, rfl, of_decide_eq_true due⟩
          refine .expired bounded (fun first counts => ?_) (fun record member => ?_)
            (Nat.le_trans (Clock.instantOf_le_instantOf.mpr noticed) turning.timed.prompt.noticed)
            (inTime due bounded)
          · have recorded : .answered id (.failed (.waitedTooLong topic)) ∈ session.happenings :=
              List.mem_map.mpr ⟨_, split ▸ List.mem_append_right _ (List.mem_cons_self ..), rfl⟩
            cases timed.passed.done_of_counted counts recorded
          · subst recorded
            refine turning.unbegun ongoing (fun record new => ?_) record member
            rcases List.mem_append.mp (listed record new) with first | last
            · obtain ⟨reply, same⟩ := quiet _ first
              rw [same]
              rfl
            · rw [List.mem_singleton.mp last]
              rfl
      | waits => cases answered
  | asks waiting turn =>
      have story := turning.timed.passed.chronicle.stories id call turning.found
      exact ended turn told (by simp [waiting, Stage.isUnderway])
        (grown.subset ((mem_recordsOf rfl).mp (story.overtaken_of_asking request waiting)))

/-! ## What a registered waiter is promised -/

/-- The terminal result is not that somebody waited too long. -/
theorem Passed.terminalError_ne (passed : Passed session) {result : Except SceneError Unit}
    (final : session.result? = some result) (topic : String) :
    terminalError result ≠ .waitedTooLong topic := by
  unfold result? Control.result? at final
  split at final
  case h_1 outcome set =>
    obtain rfl := Option.some.inj final
    have returned := (passed.ended set).1
    obtain rfl : outcome = verdict session.visiting session.history :=
      Option.some.inj (set.symm.trans (passed.judged.ended returned).2)
    unfold verdict
    split
    · simp [terminalError]
    · split
      · simp [terminalError]
      · split
        case h_1 failure first =>
          obtain ⟨prop, -, failed⟩ := List.exists_of_findSome?_eq_some first
          obtain ⟨cleanup, -, failed⟩ := Option.bind_eq_some_iff.mp failed
          obtain ⟨source, -, rfl⟩ := Option.map_eq_some_iff.mp failed
          simp [terminalError]
        case h_2 => simp [terminalError]
  case h_2 unset =>
    split at final
    · cases final
      simp [terminalError, SceneError.ofAbandonment]
    · cases final

/-- Everything that is promised to a caller that waits for a signal and has taken the reply to
its registration at the instant `start`.

- `registered`: its registration was processed by then, and it took the reply at once but for
  cleanups;
- `decided`: if it was answered, its wait was decided in one of the three ways;
- `punctual`: it is told that it waited too long only with a limit, and when that is up, at
  once unless a cleanup is running at that instant;
- `ahead`: while it waits, its limit counts from `start` and is not up, but for cleanups;
- `waits`: when nobody can go on, it is unfinished only while no signal counted it, the scene
  has not started to end and its limit was not seen to be up;
- `givenUp`: else it was cancelled, or the tasks of the scene were destroyed;
- `gone`: once it was told that it waited too long or was cancelled, no signal counts it. -/
structure WaitOutcome (session : Session V) (id : Nat) (topic : String) (limit : Span)
    (start : Nat) : Prop where
  registered : ∃ served, { instant := served, happening := .processed (.registration topic id) }
      ∈ session.journal ∧ served ≤ start ∧ InTime session.journal start served
  decided : ∀ (call : Call V) answer millisecond, session.calls[id]? = some call →
    call.stage = .finished answer millisecond → ∃ early instant late,
      session.journal = early ++ { instant, happening := .answered id answer } :: late
        ∧ session.WaitVerdict id topic (limit.expiry? start) early instant answer
  punctual : ∀ early instant late, session.journal
      = early ++ { instant, happening := .answered id (.failed (.waitedTooLong topic)) } :: late →
    ∃ due, limit.expiry? start = some due
      ∧ (¬Occupied early (Clock.instantOf due) → instant = Clock.instantOf due)
  ahead : ∀ (call : Call V) deadline, session.calls[id]? = some call →
    call.stage = .awaitingSignal deadline → deadline = limit.expiry? start
      ∧ ∀ due, deadline = some due →
        InTime session.journal session.clock.now (Clock.instantOf due)
  waits : session.AtRest → ∀ call : Call V, session.calls[id]? = some call →
    call.isUnfinished = true → (∀ opening, ¬session.Counts topic opening id)
      ∧ session.control.ending = false
      ∧ ∀ due, limit.expiry? start = some due → session.clock.noticed < due
  givenUp : ∀ call : Call V, session.calls[id]? = some call → call.stage = .dropped →
    .cancelled id ∈ session.happenings ∨ session.backendRuns = false
  gone : ∀ name early entry late, session.happenings = early ++ .processed entry :: late →
    entry.command = .signal name →
      .answered id (.failed (.waitedTooLong topic)) ∈ early ∨ .cancelled id ∈ early →
        ∃ waiters, session.Settles name early entry waiters ∧ id ∉ waiters

/-- A caller takes its reply only while it waits for it. -/
theorem CallTurn.takes {log : List (Happening V)} {changes : List (CallChange V)}
    {mailbox : Mailbox (Envelope V)} (turn : CallTurn before id call log changes mailbox)
    {response : Response V} (taken : .replied id response ∈ log) :
    call.stage = .awaitingReply ∧ call.reply = .filled response := by
  have untaken {control : Control SceneError} {request : Request V} {log : List (Happening V)}
      {stage : Stage V} (turn : ResultTurn control id request log stage) :
      .replied id response ∉ log := by
    cases turn <;> simp
  have unsignalled {deadline : Option Nat} {topic : String} {log : List (Happening V)}
      {stage : Stage V}
      (turn : SignalTurn before.control before.clock id call topic deadline log stage) :
      .replied id response ∉ log := by
    cases turn with
    | overtaken lapsed turn => simpa using untaken turn
    | _ => simp
  cases turn with
  | replied waiting filled turn =>
      rcases List.mem_cons.mp taken with same | later
      · cases same
        exact ⟨waiting, filled⟩
      · cases turn with
        | answered => simp at later
        | registered deadline asks accepted turn => exact absurd later (unsignalled turn)
  | stops fresh asks turn => exact absurd (by simpa using taken) (untaken turn)
  | waits fresh asks turn => exact absurd (by simpa using taken) (untaken turn)
  | overtaken waiting lapsed turn => exact absurd (by simpa using taken) (untaken turn)
  | listens waiting asks turn => exact absurd taken (unsignalled turn)
  | asks waiting turn => exact absurd taken (untaken turn)
  | submits opens sends turn =>
      generalize call.stage = stage at opens
      cases opens <;> cases turn <;> simp at taken
  | _ => simp at taken

theorem Timed.registered (timed : Timed session) (asks : session.waitOf? id = some (topic, limit))
    (registered : start ∈ session.registeredAt id) :
    ∃ served, { instant := served, happening := .processed (.registration topic id) }
      ∈ session.journal ∧ served ≤ start ∧ InTime session.journal start served := by
  obtain ⟨reply, recorded⟩ := mem_registeredAt.mp registered
  obtain ⟨early, late, split⟩ := List.append_of_mem recorded
  have tells : Happening.tells id (.replied id (.ok reply) : Happening V) = true :=
    beq_self_eq_true id
  obtain ⟨before, call, turning⟩ := timed.turning split tells
  have request := turning.request asks
  obtain ⟨log, changes, mailbox, turn, growth, -⟩ :=
    before.resumeCall_turnsBy id call turning.found
  obtain ⟨told, now, -⟩ := turning.within growth.journal turn.isByCall
  obtain rfl : start = before.clock.now := now
  obtain ⟨waiting, filled⟩ := turn.takes told
  have story := turning.timed.passed.chronicle.stories id call turning.found
  have prompt := turning.timed.prompt
  have served : .processed (.registration topic id) ∈ before.recordsOf id := by
    obtain ⟨accepted, told⟩ := story.registered_of_filled waiting request filled
    rw [told, accepted]
    simp [processedStory, Processed.registration]
  obtain ⟨⟨served, happening⟩, listed, same⟩ := List.mem_map.mp ((mem_recordsOf rfl).mp served)
  obtain rfl : happening = .processed (.registration topic id) := same
  have kept : before.journal ⊆ session.journal := by
    rw [split]
    exact List.Subset.trans turning.journal_prefix.subset (List.subset_append_left ..)
  exact ⟨served, kept listed, prompt.past _ listed,
    (prompt.replies id call served _ turning.found waiting listed rfl).mono kept (Nat.le_refl _)⟩

/-- The answer of a call is recorded. -/
theorem Story.answered_of_finished {records : List (Happening V)}
    (story : Story session id call records) {millisecond : Nat}
    (finished : call.stage = .finished answer millisecond) : .answered id answer ∈ records := by
  cases story <;> cases finished <;> simp

/-- Only a call that was cancelled, or whose task was destroyed, is given up. -/
theorem Story.cause_of_dropped {records : List (Happening V)}
    (story : Story session id call records) (dropped : call.stage = .dropped) :
    .cancelled id ∈ records ∨ session.backendRuns = false := by
  cases story with
  | cancelled => exact .inl (by simp)
  | processedLate => exact .inl (by simp)
  | destroyed lived unfinished stopped => exact .inr stopped
  | _ => cases dropped

theorem WaitVerdict.punctual (passed : Passed session)
    (verdict : session.WaitVerdict id topic due? early instant (.failed (.waitedTooLong topic))) :
    ∃ due, due? = some due
      ∧ (¬Occupied early (Clock.instantOf due) → instant = Clock.instantOf due) := by
  generalize told : (.failed (.waitedTooLong topic) : Answer V) = answer at verdict
  cases verdict with
  | signalled => cases told
  | ended uncounted began begins inTime stored final =>
      exact absurd (Answer.failed.inj told).symm (passed.terminalError_ne final topic)
  | expired limited uncounted ongoing up inTime =>
      exact ⟨_, limited, fun free => Nat.le_antisymm (inTime.le free) up⟩

/-- A registered waiter that is not finished waits for its signal or for the result. -/
theorem Story.underway_of_registered {records : List (Happening V)}
    (story : Story session id call records) {reply : Reply V}
    (replied : .replied id (.ok reply) ∈ records) (unfinished : call.isUnfinished = true) :
    call.stage.isUnderway = true := by
  cases story with
  | fresh => cases replied
  | seeking => simp at replied
  | _ => first | rfl | cases unfinished

/-- At rest a registered waiter waits for what has not come. -/
theorem Timed.waits (timed : Timed session) (reachable : Reachable session) (rest : session.AtRest)
    (found : session.calls[id]? = some call) (asks : call.request = .waitSignal topic limit)
    (registered : start ∈ session.registeredAt id) (unfinished : call.isUnfinished = true) :
    ∃ deadline, call.stage = .awaitingSignal deadline ∧ call.signal = .pending
      ∧ session.control.ending = false
      ∧ ∀ due, deadline = some due → session.clock.noticed < due := by
  have passed := timed.passed
  have steered := passed.steered
  have runs : session.backendRuns = true := by
    refine Bool.not_eq_false _ ▸ fun halted => ?_
    obtain ⟨reply, recorded⟩ := mem_registeredAt.mp registered
    have underway := (passed.chronicle.stories id call found).underway_of_registered
      (mem_recordsOf_of_recorded rfl recorded) unfinished
    exact rest.not_canGoOn reachable found (timed.prompt.canGoOn passed halted found underway)
  have present := (steered.running runs).2.2.1
  have ongoing : session.control.ending = false := by
    rcases rest.backend reachable.attentive steered present with ⟨-, ongoing, -⟩ | ⟨halted, -⟩
    · exact ongoing
    · cases runs.symm.trans halted
  obtain ⟨-, awaits⟩ := (rest.quiescent reachable present).unfinished id call found unfinished
  cases awaits with
  | theEnd other => cases asks.symm.trans other
  | @aSignal _ _ deadline asked waits silent listed =>
      refine ⟨deadline, waits, silent, ongoing, fun due bounded => ?_⟩
      have armed : call.deadline? = some due := by simp [Call.deadline?, waits, bounded]
      exact Nat.not_le.mp fun lapsed =>
        rest.2 id (reachable.alarmed id call due found armed lapsed (by simp))

/-- The limit of a registered waiter counts from its registration, and is not up as long as it
waits. -/
theorem Timed.ahead (timed : Timed session) (found : session.calls[id]? = some call)
    (asks : call.request = .waitSignal topic limit) (registered : start ∈ session.registeredAt id)
    {deadline : Option Nat} (waiting : call.stage = .awaitingSignal deadline) :
    deadline = limit.expiry? start
      ∧ ∀ due, deadline = some due →
        InTime session.journal session.clock.now (Clock.instantOf due) := by
  have prompt := timed.prompt
  obtain ⟨_, _, begun, asked, registered', rfl⟩ := prompt.dated id call deadline found waiting
  cases asks.symm.trans asked
  cases timed.passed.registeredAt_unique registered registered'
  exact ⟨rfl, fun due bounded => prompt.waits id call due found
    (waiting.trans (congrArg _ bounded))⟩

/-- In a timely run every registered waiter is served as promised: a signal, the end of the
scene and its limit compete for it, and the first of them decides, in this order if its turn
comes when several of them are there. -/
theorem bounded_wait_outcome (timely : Timely session)
    (asks : session.waitOf? id = some (topic, limit))
    (registered : start ∈ session.registeredAt id) :
    session.WaitOutcome id topic limit start := by
  have timed := timely.timed
  have reachable := timely.reachable
  have passed := timed.passed
  obtain ⟨call, found, request⟩ := waitOf?_eq_some.mp asks
  have story := passed.chronicle.stories id call found
  constructor
  case registered => exact timed.registered asks registered
  case decided =>
    intro other answer millisecond present finished
    cases found.symm.trans present
    have recorded := (mem_recordsOf rfl).mp (story.answered_of_finished finished)
    obtain ⟨⟨instant, happening⟩, listed, same⟩ := List.mem_map.mp recorded
    obtain rfl : happening = .answered id answer := same
    obtain ⟨early, late, split⟩ := List.append_of_mem listed
    exact ⟨early, instant, late, split, timed.verdict asks registered split⟩
  case punctual =>
    intro early instant late split
    exact (timed.verdict asks registered split).punctual passed
  case ahead =>
    intro other deadline present waiting
    cases found.symm.trans present
    exact timed.ahead found request registered waiting
  case waits =>
    intro rest other present unfinished
    cases found.symm.trans present
    obtain ⟨deadline, waiting, silent, ongoing, unseen⟩ :=
      timed.waits reachable rest found request registered unfinished
    refine ⟨fun opening counts => ?_, ongoing, ?_⟩
    · obtain ⟨_, _, present, -, -, raised⟩ := passed.raised_of_counted counts
      cases found.symm.trans present
      cases silent.symm.trans raised
    · rw [← (timed.ahead found request registered waiting).1]
      exact unseen
  case givenUp =>
    intro other present dropped
    cases found.symm.trans present
    exact (story.cause_of_dropped dropped).imp_left (mem_recordsOf rfl).mp
  case gone =>
    intro name early entry late split signals gone
    obtain ⟨waiters, settles⟩ := reachable.settles split signals
    refine ⟨waiters, settles, fun counted => ?_⟩
    obtain ⟨_, _, present, asked, -⟩ := settles.roused id counted
    cases found.symm.trans present
    cases request.symm.trans asked
    have still := (settles.counted id).mp counted
    exact gone.elim still.patient still.kept

/-! ## Three runs -/

/-- When the callers were answered, with the label of the error if there was one. -/
def answerTimes (session : Session V) : List (Nat × Nat × Option String) :=
  session.journal.filterMap fun record =>
    match record.happening with
    | .answered id (.failed error) => some (record.instant, id, some error.label)
    | .answered id _ => some (record.instant, id, none)
    | _ => none

/-- Three callers wait, for 30 ms, for 50 ms and without a limit.  The first is signalled after
20 ms, and after 60 ms the scene is asked to stop. -/
def threeWaits : List (Step Nat) :=
  [.deeds [.call (.waitSignal "go" (.ofMilliseconds 30)),
      .call (.waitSignal "stay" (.ofMilliseconds 50)), .call (.waitSignal "stay" .zero)],
    .elapse (.ofMilliseconds 20), .deeds [.call (.signal "go")],
    .elapse (.ofMilliseconds 40), .deeds [.call .stop]]

theorem bounded_wait_outcome_threeWaits :
    create? {} [] = some (plain : Session Nat)
      ∧ (plain.performAll threeWaits).answerTimes
        = [(Clock.instantOf 20, 0, none), (Clock.instantOf 20, 3, none),
          (Clock.instantOf 50, 1, some "waited_too_long"),
          (Clock.instantOf 60, 2, some "scene_ended"), (Clock.instantOf 60, 4, none)]
      ∧ (plain.performAll threeWaits).WaitOutcome 0 "go" (.ofMilliseconds 30) 0
      ∧ (plain.performAll threeWaits).WaitOutcome 1 "stay" (.ofMilliseconds 50) 0
      ∧ (plain.performAll threeWaits).WaitOutcome 2 "stay" .zero 0 := by
  have created : create? {} [] = some (plain : Session Nat) := rfl
  have timely := timely_performAll created threeWaits
  exact ⟨created, by decide +kernel,
    bounded_wait_outcome timely (by decide +kernel) (by decide +kernel),
    bounded_wait_outcome timely (by decide +kernel) (by decide +kernel),
    bounded_wait_outcome timely (by decide +kernel) (by decide +kernel)⟩

/-- A wait of 50 ms, and then a dispose whose cleanup takes 100 ms, with some more calls. -/
def disposeAcrossLimit (more : List (Deed Nat)) : List (Step Nat) :=
  [.deeds [.call (.store "n" 1 (some { act := .pass (.ofMilliseconds 100) }))],
    .deeds [.call (.waitSignal "go" (.ofMilliseconds 50))],
    .deeds (.call (.dispose "n") :: more)]

/-- A cleanup keeps the thread busy across the end of a wait: its caller is told at 100 ms that
it waited too long, not at 50 ms, and a signal that was queued behind the cleanup still reaches
it. -/
theorem wait_overrun :
    create? {} [] = some (plain : Session Nat)
      ∧ (Span.ofMilliseconds 50).expiry? 0 = some 50
      ∧ (plain.performAll (disposeAcrossLimit [])).waitOf? 1 = some ("go", .ofMilliseconds 50)
      ∧ (plain.performAll (disposeAcrossLimit [])).registeredAt 1 = [0]
      ∧ (plain.performAll (disposeAcrossLimit [])).answerTimes
        = [(0, 0, none), (Clock.instantOf 100, 2, none),
          (Clock.instantOf 100, 1, some "waited_too_long")]
      ∧ (plain.performAll (disposeAcrossLimit [.call (.signal "go")])).registeredAt 1 = [0]
      ∧ (plain.performAll (disposeAcrossLimit [.call (.signal "go")])).answerTimes
        = [(0, 0, none), (Clock.instantOf 100, 2, none), (Clock.instantOf 100, 1, none),
          (Clock.instantOf 100, 3, none)] :=
  ⟨rfl, by decide +kernel, by decide +kernel, by decide +kernel, by decide +kernel,
    by decide +kernel, by decide +kernel⟩

end Session

end BoundedScene
