import BoundedScene.Proofs.Cleanups
import BoundedScene.Proofs.Story
import Mathlib.Data.List.Nodup

/-!
Contract: the order in which commands enter the mailbox and are processed.

Owns:
- `arrivals`, the commands in the order in which they entered;
- `Chronicle`, the invariant that the commands processed and those in the mailbox make
  up the arrivals, and that the journal holds the story of every call.

Does not own: what the commands do.
-/

namespace BoundedScene

open BoundedScene.Supervision (Control)

namespace Happening

variable {V : Type}

def arrival? : Happening V → Option (Envelope V)
  | .entered envelope => some envelope
  | _ => none

end Happening

namespace Session

variable {V : Type}

/-- The commands that entered the mailbox, in the order in which they did. -/
def arrivals (session : Session V) : List (Envelope V) :=
  session.happenings.filterMap Happening.arrival?

/-- The journal tells the story of every call, and the arrivals are the commands that
were processed followed by those that wait in the mailbox. -/
structure Chronicle (session : Session V) : Prop where
  stories : ∀ id call, session.calls[id]? = some call →
    Story session id call (session.recordsOf id)
  unborn : ∀ id : Nat, session.calls[id]? = none → session.recordsOf id = []
  running : session.backendRuns = true → session.mailbox.closed = false
    ∧ session.arrivals = session.ledger.map Processed.envelope ++ session.mailbox.queued
  stopped : session.backendRuns = false → session.mailbox.closed = true
    ∧ session.mailbox.queued = []
  ordered : session.ledger.map Processed.envelope <+: session.arrivals
  distinct : (session.arrivals.map Envelope.caller).Nodup

variable {before after : Session V}

theorem IsInitial.chronicle {session : Session V} (initial : session.IsInitial) :
    session.Chronicle := by
  have silent : session.happenings = [] := by simp [happenings, initial.journal]
  obtain ⟨capacity, -, mailbox⟩ := initial.mailbox
  have runs : session.backendRuns = true := by simp [backendRuns, initial.backend]
  constructor
  case stories =>
    intro id call found
    simp [initial.calls] at found
  case unborn =>
    intro id _
    simp [recordsOf, silent]
  case running =>
    intro _
    simp [mailbox, arrivals, ledger, silent]
  case stopped =>
    intro stopped
    simp [runs] at stopped
  case ordered =>
    simp [arrivals, ledger, silent]
  case distinct =>
    simp [arrivals, silent]

theorem recordsOf_of_happenings {log : List (Happening V)} (id : Nat)
    (happenings : after.happenings = before.happenings ++ log) :
    after.recordsOf id = before.recordsOf id ++ log.filter (Happening.isAbout id) := by
  unfold recordsOf
  rw [happenings, List.filter_append]

theorem arrivals_of_happenings {log : List (Happening V)}
    (happenings : after.happenings = before.happenings ++ log) :
    after.arrivals = before.arrivals ++ log.filterMap Happening.arrival? := by
  unfold arrivals
  rw [happenings, List.filterMap_append]

/-! ## The stories along a step -/

/-- The stories of `before` carried on by records and changes of calls. -/
structure CarriesOn (before after : Session V) (log : List (Happening V)) : Prop where
  stories : ∀ id call, after.calls[id]? = some call →
    Story after id call (before.recordsOf id ++ log.filter (Happening.isAbout id))
  unborn : ∀ id : Nat, after.calls[id]? = none →
    before.recordsOf id ++ log.filter (Happening.isAbout id) = []

theorem Chronicle.carriesOn (chronicle : before.Chronicle) {log : List (Happening V)}
    {changes : List (CallChange V)}
    (calls : ∀ id : Nat, after.calls[id]? = before.calls[id]?.map (Call.applyAll id changes))
    (stories : ∀ id call, before.calls[id]? = some call →
      Story after id (Call.applyAll id changes call)
        (before.recordsOf id ++ log.filter (Happening.isAbout id)))
    (silent : ∀ id : Nat, before.calls[id]? = none → log.filter (Happening.isAbout id) = []) :
    CarriesOn before after log where
  stories id call found := by
    rw [calls] at found
    obtain ⟨earlier, present, rfl⟩ := Option.map_eq_some_iff.mp found
    exact stories id earlier present
  unborn id missing := by
    rw [calls, Option.map_eq_none_iff] at missing
    rw [chronicle.unborn id missing, silent id missing]
    rfl

/-- A step that leaves the mailbox's queue as it is or puts at most new arrivals at its
end. -/
theorem Chronicle.arrive (chronicle : before.Chronicle) {log : List (Happening V)}
    (happenings : after.happenings = before.happenings ++ log)
    (carried : CarriesOn before after log)
    (unprocessed : log.filterMap Happening.processed? = [])
    (runs : after.backendRuns = before.backendRuns)
    (closed : after.mailbox.closed = before.mailbox.closed)
    (queued : after.mailbox.queued
      = before.mailbox.queued ++ log.filterMap Happening.arrival?)
    (shut : before.mailbox.closed = true → log.filterMap Happening.arrival? = [])
    (distinct : ((before.arrivals ++ log.filterMap Happening.arrival?).map
      Envelope.caller).Nodup) : after.Chronicle := by
  have arrived := arrivals_of_happenings happenings
  have ledgers : after.ledger = before.ledger := by
    rw [ledger_of_happenings before happenings, unprocessed, List.append_nil]
  constructor
  case stories =>
    intro id call found
    rw [recordsOf_of_happenings id happenings]
    exact carried.stories id call found
  case unborn =>
    intro id missing
    rw [recordsOf_of_happenings id happenings]
    exact carried.unborn id missing
  case running =>
    intro running
    obtain ⟨unclosed, split⟩ := chronicle.running (runs ▸ running)
    refine ⟨closed.trans unclosed, ?_⟩
    rw [arrived, split, ledgers, queued, List.append_assoc]
  case stopped =>
    intro stopped
    obtain ⟨unopened, empty⟩ := chronicle.stopped (runs ▸ stopped)
    refine ⟨closed.trans unopened, ?_⟩
    rw [queued, empty, shut unopened, List.append_nil]
  case ordered =>
    rw [arrived, ledgers]
    exact chronicle.ordered.trans (List.prefix_append _ _)
  case distinct =>
    rw [arrived]
    exact distinct

/-- A step with no arrivals that leaves the mailbox's queue as it is. -/
theorem Chronicle.rest (chronicle : before.Chronicle) {log : List (Happening V)}
    (happenings : after.happenings = before.happenings ++ log)
    (carried : CarriesOn before after log)
    (unprocessed : log.filterMap Happening.processed? = [])
    (unarrived : log.filterMap Happening.arrival? = [])
    (runs : after.backendRuns = before.backendRuns)
    (closed : after.mailbox.closed = before.mailbox.closed)
    (queued : after.mailbox.queued = before.mailbox.queued) : after.Chronicle := by
  refine chronicle.arrive happenings carried unprocessed runs closed ?_ (fun _ => unarrived) ?_
  · rw [queued, unarrived, List.append_nil]
  · rw [unarrived, List.append_nil]
    exact chronicle.distinct

/-! ## The turn of a call -/

theorem Mailbox.closed_grant (mailbox : Mailbox (Envelope V)) :
    mailbox.grant.1.closed = mailbox.closed := by
  unfold BoundedScene.Mailbox.grant
  split
  · rfl
  · split <;> rfl

theorem leave_queue (mailbox : Mailbox (Envelope V)) (id : Nat) :
    (mailbox.leave id).1.queued = mailbox.queued
      ∧ (mailbox.leave id).1.closed = mailbox.closed :=
  ⟨(granted_grant _).2, Mailbox.closed_grant _⟩

theorem ResultTurn.unarrived {control : Control SceneError} {id : Nat} {request : Request V}
    {log : List (Happening V)} {stage : Stage V} (turn : ResultTurn control id request log stage) :
    log.filterMap Happening.arrival? = [] := by
  cases turn <;> rfl

theorem SignalTurn.unarrived {control : Control SceneError} {clock : Clock} {id : Nat}
    {call : Call V} {topic : String} {deadline : Option Nat} {log : List (Happening V)}
    {stage : Stage V} (turn : SignalTurn control clock id call topic deadline log stage) :
    log.filterMap Happening.arrival? = [] := by
  cases turn with
  | overtaken lapsed turn => exact turn.unarrived
  | _ => rfl

theorem ReplyTurn.unarrived {control : Control SceneError} {clock : Clock} {id : Nat}
    {call : Call V} {response : Response V} {log : List (Happening V)} {stage : Stage V}
    (turn : ReplyTurn control clock id call response log stage) :
    log.filterMap Happening.arrival? = [] := by
  cases turn with
  | answered final => rfl
  | registered deadline asks accepted turn => exact turn.unarrived

/-- A command arrives at the end of a turn of a call that has not submitted one before,
and only while the mailbox is open and the scene has not started to end. -/
def Arrives (before : Session V) (id : Nat) (call : Call V) (log : List (Happening V)) : Prop :=
  log.filterMap Happening.arrival? = []
    ∨ before.mailbox.closed = false ∧ before.control.ending = false
      ∧ ∃ opening command, Opening id call.stage opening
        ∧ log = opening ++ [.entered { caller := id, command }]

theorem Opening.early {id : Nat} {stage : Stage V} {opening : List (Happening V)}
    (opens : Opening id stage opening) :
    (stage = .fresh ∨ stage = .seekingSlot) ∧ opening.filterMap Happening.arrival? = []
      ∧ ∀ happening ∈ opening, happening.beginsEnding = false := by
  cases opens with
  | first => exact ⟨.inl rfl, rfl, by simp [Happening.beginsEnding]⟩
  | again => exact ⟨.inr rfl, rfl, by simp⟩

/-- A turn puts at most the command of the call at the end of the mailbox's queue. -/
theorem CallTurn.queue {id : Nat} {call : Call V} {log : List (Happening V)}
    {changes : List (CallChange V)} {mailbox : Mailbox (Envelope V)}
    (turn : CallTurn before id call log changes mailbox) :
    mailbox.closed = before.mailbox.closed
      ∧ mailbox.queued = before.mailbox.queued ++ log.filterMap Happening.arrival?
      ∧ Arrives before id call log := by
  have plain {log : List (Happening V)} (unarrived : log.filterMap Happening.arrival? = []) :
      before.mailbox.closed = before.mailbox.closed
        ∧ before.mailbox.queued = before.mailbox.queued ++ log.filterMap Happening.arrival?
        ∧ Arrives before id call log :=
    ⟨rfl, by rw [unarrived, List.append_nil], .inl unarrived⟩
  cases turn with
  | rests resting => exact plain rfl
  | strays stray => exact plain rfl
  | stops fresh asks turn => exact plain turn.unarrived
  | waits fresh asks turn => exact plain turn.unarrived
  | aborts fresh asks => exact plain rfl
  | looks fresh asks => exact plain rfl
  | replied waiting filled turn => exact plain turn.unarrived
  | overtaken waiting lapsed turn => exact plain turn.unarrived
  | listens waiting asks turn => exact plain turn.unarrived
  | asks waiting turn => exact plain turn.unarrived
  | @submits opening submitted stage command mailbox opens sends turn =>
      obtain ⟨-, opened, -⟩ := opens.early
      unfold Arrives
      rw [List.filterMap_append, opened, List.nil_append]
      cases turn with
      | refused barred =>
          obtain ⟨queued, closed⟩ := leave_queue before.mailbox id
          exact ⟨closed, queued.trans (List.append_nil _).symm, .inl rfl⟩
      | enters ongoing unclosed admitted =>
          exact ⟨rfl, rfl, .inr ⟨unclosed, ongoing, opening, command, opens, rfl⟩⟩
      | linesUp ongoing unclosed full =>
          refine ⟨?_, ?_, .inl rfl⟩
          · unfold Mailbox.await
            split <;> rfl
          · unfold Mailbox.await
            split <;> exact (List.append_nil _).symm

theorem CallTurn.elsewhere {id other : Nat} {call : Call V} {log : List (Happening V)}
    {changes : List (CallChange V)} {mailbox : Mailbox (Envelope V)}
    (turn : CallTurn before id call log changes mailbox) (elsewhere : id ≠ other)
    (othersCall : Call V) : Call.applyAll other changes othersCall = othersCall := by
  cases turn <;> simp [Call.apply, elsewhere]

theorem halted_cases (halted : before.backendRuns = false) :
    before.backend = .returned ∨ before.backend = .lost := by
  unfold backendRuns at halted
  cases backend : before.backend <;> simp_all

theorem Story.not_entered {id : Nat} {call : Call V} {records : List (Happening V)}
    (story : Story before id call records)
    (early : call.stage = .fresh ∨ call.stage = .seekingSlot) (envelope : Envelope V) :
    .entered envelope ∉ records := by
  cases story with
  | fresh => simp
  | seeking => simp
  | _ => rcases early with fresh | seeking
         · cases fresh
         · cases seeking

theorem mem_arrivals {envelope : Envelope V} :
    envelope ∈ before.arrivals ↔ .entered envelope ∈ before.happenings := by
  unfold arrivals
  rw [List.mem_filterMap]
  constructor
  · rintro ⟨happening, recorded, told⟩
    cases happening <;> cases told
    exact recorded
  · exact fun recorded => ⟨_, recorded, rfl⟩

/-- Whose command arrived has a record of it. -/
theorem entered_mem_recordsOf {envelope : Envelope V} (arrived : envelope ∈ before.arrivals) :
    .entered envelope ∈ before.recordsOf envelope.caller :=
  (mem_recordsOf rfl).mpr (mem_arrivals.mp arrived)

theorem Chronicle.turn (chronicle : before.Chronicle) (steered : before.Steered) {id : Nat}
    {call : Call V} (found : before.calls[id]? = some call)
    (later : Later before (before.resumeCall id)) : (before.resumeCall id).Chronicle := by
  obtain ⟨log, changes, mailbox, turn, growth, -⟩ := before.resumeCall_turnsBy id call found
  generalize before.resumeCall id = after at growth later ⊢
  have happenings : after.happenings = before.happenings ++ log := growth.happenings
  obtain ⟨closed, queued, arrives⟩ := turn.queue
  have shut (halted : before.mailbox.closed = true) :
      before.control.ending = true ∨ before.control.lost = true := by
    cases runs : before.backendRuns with
    | true =>
        have unclosed := (chronicle.running runs).1
        rw [halted] at unclosed
        cases unclosed
    | false =>
        rcases halted_cases runs with returned | lost
        · exact .inl (steered.returned returned).2.1
        · exact .inr (steered.lost lost).1
  have calm : ∀ happening ∈ log, happening.isCalm = true := fun happening member =>
    (turn.isByCall happening member).calm
  have carried : CarriesOn before after log := by
    refine chronicle.carriesOn growth.calls (fun other othersCall present => ?_)
      fun other missing => ?_
    · by_cases same : id = other
      · subst same
        obtain rfl : call = othersCall := Option.some.inj (found.symm.trans present)
        exact turn.story (chronicle.stories id call found) steered shut later happenings
      · rw [filter_isAbout_of_isByCall turn.isByCall same, List.append_nil, turn.elsewhere same]
        exact (chronicle.stories other othersCall present).later later
    · refine filter_isAbout_of_isByCall turn.isByCall fun same => ?_
      rw [same, missing] at found
      cases found
  refine chronicle.arrive happenings carried (Happening.processed_of_calm calm) ?_ ?_ ?_ ?_ ?_
  · simp only [backendRuns, growth.backend]
  · rw [growth.mailbox]
    exact closed
  · rw [growth.mailbox]
    exact queued
  · intro halted
    rcases arrives with none | ⟨unclosed, -⟩
    · exact none
    · rw [halted] at unclosed
      cases unclosed
  · rcases arrives with none | ⟨-, -, opening, command, opens, rfl⟩
    · rw [none, List.append_nil]
      exact chronicle.distinct
    · obtain ⟨early, unarrived, -⟩ := opens.early
      rw [List.filterMap_append, unarrived, List.map_append]
      refine List.nodup_append.mpr ⟨chronicle.distinct, List.nodup_singleton _, ?_⟩
      intro caller earlier other last same
      have own : caller = id := same.trans (List.mem_singleton.mp last)
      obtain ⟨envelope, arrived, sender⟩ := List.mem_map.mp earlier
      have entered := entered_mem_recordsOf arrived
      rw [sender, own] at entered
      exact (chronicle.stories id call found).not_entered early envelope entered

/-! ## The turn of the backend -/

theorem take_queue {mailbox : Mailbox (Envelope V)} {envelope : Envelope V}
    {rest : Mailbox (Envelope V) × Option Nat} (taken : mailbox.take? = some (envelope, rest)) :
    mailbox.queued = envelope :: rest.1.queued ∧ rest.1.closed = mailbox.closed := by
  unfold Mailbox.take? at taken
  split at taken
  · cases taken
  case h_2 first later queue =>
    cases taken
    refine ⟨?_, Mailbox.closed_grant _⟩
    rw [(granted_grant { mailbox with queued := later }).2]
    exact queue

theorem filter_isAbout_of_isByCleanup {log : List (Happening V)}
    (byCleanup : ∀ happening ∈ log, happening.isByCleanup) (id : Nat) :
    log.filter (Happening.isAbout id) = [] := by
  refine List.filter_eq_nil_iff.mpr fun happening member => ?_
  have subject := Happening.subject?_of_isByCleanup (byCleanup happening member)
  simp [Happening.isAbout, subject]

theorem filter_isAbout_serveLog (envelope : Envelope V) (id : Nat) :
    (before.serveLog envelope).filter (Happening.isAbout id)
      = if envelope.caller = id then [.processed (before.entryFor envelope)] else [] := by
  have silent : (before.effect envelope.caller envelope.command).log.filter
      (Happening.isAbout id) = [] :=
    filter_isAbout_of_isByCleanup (fun _ member => isByCleanup_of_mem_effect_log member) id
  unfold serveLog
  rw [List.filter_append, silent, List.nil_append]
  by_cases own : envelope.caller = id <;>
    simp [own, Happening.isAbout, Happening.subject?, entryFor]

theorem unarrived_of_isByCleanup {log : List (Happening V)}
    (byCleanup : ∀ happening ∈ log, happening.isByCleanup) :
    log.filterMap Happening.arrival? = [] := by
  refine List.filterMap_eq_nil_iff.mpr fun happening member => ?_
  have kind := byCleanup happening member
  cases happening <;> first | rfl | cases kind

theorem unarrived_serveLog (before : Session V) (envelope : Envelope V) :
    (before.serveLog envelope).filterMap Happening.arrival? = [] := by
  have byCleanup : (before.effect envelope.caller envelope.command).log.filterMap
      Happening.arrival? = [] :=
    unarrived_of_isByCleanup fun _ member => isByCleanup_of_mem_effect_log member
  rw [serveLog, List.filterMap_append, byCleanup]
  rfl

theorem EndCause.unarrived_endLog {log : List (Happening V)} {heralds : List Event}
    {error : Option SceneError} (cause : EndCause before log heralds error after) :
    (before.endLog log error).filterMap Happening.arrival? = [] := by
  have torn : before.teardownLog.filterMap Happening.arrival? = [] :=
    unarrived_of_isByCleanup fun _ member => isByCleanup_of_mem_teardownLog member
  rw [endLog, List.filterMap_append, List.filterMap_append, torn]
  cases cause <;> rfl

/-- No record of an end is about a single call. -/
theorem EndCause.unheard {log : List (Happening V)} {heralds : List Event}
    {error : Option SceneError} (cause : EndCause before log heralds error after) (id : Nat) :
    (before.endLog log error).filter (Happening.isAbout id) = [] := by
  have torn : before.teardownLog.filter (Happening.isAbout id) = [] :=
    filter_isAbout_of_isByCleanup (fun _ member => isByCleanup_of_mem_teardownLog member) id
  rw [endLog, List.filter_append, List.filter_append, torn]
  cases cause <;> simp [Happening.isAbout, Happening.subject?]

theorem EndCause.arrivals {log : List (Happening V)} {heralds : List Event}
    {error : Option SceneError} (cause : EndCause before log heralds error after) :
    after.arrivals = before.arrivals := by
  rw [arrivals_of_happenings cause.happenings, cause.unarrived_endLog, List.append_nil]

theorem Steered.ongoing (steered : before.Steered) (runs : before.backendRuns = true)
    (unstopped : before.control.stopRequested = false) : before.control.ending = false := by
  cases ending : before.control.ending with
  | false => rfl
  | true =>
      have asked := (steered.running runs).2.2.2 ending
      rw [unstopped] at asked
      cases asked

/-- A command in the mailbox has a caller, who has no record of its being processed. -/
theorem Chronicle.pending (chronicle : before.Chronicle) (runs : before.backendRuns = true)
    {envelope : Envelope V} (queued : envelope ∈ before.mailbox.queued) :
    .entered envelope ∈ before.recordsOf envelope.caller
      ∧ (before.recordsOf envelope.caller).filterMap Happening.processed? = [] := by
  obtain ⟨-, split⟩ := chronicle.running runs
  have arrived : envelope ∈ before.arrivals := by
    rw [split]
    exact List.mem_append_right _ queued
  refine ⟨entered_mem_recordsOf arrived, List.filterMap_eq_nil_iff.mpr fun happening member => ?_⟩
  obtain ⟨recorded, about⟩ := List.mem_filter.mp member
  cases happening with
  | processed entry =>
      have own : entry.caller = envelope.caller := by
        simpa [Happening.isAbout, Happening.subject?] using about
      have processed : entry.envelope ∈ before.ledger.map Processed.envelope :=
        List.mem_map_of_mem (mem_ledger.mpr recorded)
      have distinct := chronicle.distinct
      rw [split, List.map_append] at distinct
      exact absurd own ((List.nodup_append.mp distinct).2.2 _
        (List.mem_map_of_mem processed) _ (List.mem_map_of_mem queued))
  | _ => rfl

theorem Chronicle.serve (chronicle : before.Chronicle) (steered : before.Steered)
    (serving : before.isServing) (unstopped : before.control.stopRequested = false)
    {envelope : Envelope V} {rest : Mailbox (Envelope V) × Option Nat}
    (taken : before.mailbox.take? = some (envelope, rest))
    (later : Later before (before.serveOne envelope rest)) :
    (before.serveOne envelope rest).Chronicle := by
  obtain ⟨backend, ⟨absolute, inactivity, rfl⟩, growth⟩ := serveOne_evolves serving envelope rest
  have runs := (serveOne_isServing serving envelope rest).runs
  generalize before.serveOne envelope rest = after at growth later runs ⊢
  have happenings : after.happenings = before.happenings ++ before.serveLog envelope :=
    growth.happenings
  obtain ⟨queue, sameClosed⟩ := take_queue taken
  obtain ⟨unclosed, split⟩ := chronicle.running serving.runs
  have queued : envelope ∈ before.mailbox.queued := by
    rw [queue]
    exact List.mem_cons_self ..
  obtain ⟨entered, unprocessed⟩ := chronicle.pending serving.runs queued
  have arrived : after.arrivals = before.arrivals := by
    rw [arrivals_of_happenings happenings, before.unarrived_serveLog, List.append_nil]
  have ledgers : after.ledger = before.ledger ++ [before.entryFor envelope] := by
    rw [ledger_of_happenings before happenings, before.processed_serveLog]
  have mailbox : after.mailbox = rest.1 := growth.mailbox
  have carried : CarriesOn before after (before.serveLog envelope) := by
    refine chronicle.carriesOn growth.calls (fun id call found => ?_) fun id missing => ?_
    · have story := (chronicle.stories id call found).allNotified
        (before.effect envelope.caller envelope.command).woken .raised
      rw [serveChanges, Call.applyAll_append, filter_isAbout_serveLog]
      by_cases own : envelope.caller = id
      · subst own
        rw [if_pos rfl]
        refine (story.process steered serving.runs (steered.ongoing serving.runs unstopped)
          entered unprocessed fun topic registers => ?_).later later
        simp [entryFor, registers, effect]
      · rw [if_neg own, List.append_nil, Call.applyAll_cons, Call.applyAll_nil,
          reply_elsewhere own]
        exact story.later later
    · rw [filter_isAbout_serveLog]
      refine if_neg fun own => ?_
      rw [own, chronicle.unborn id missing] at entered
      cases entered
  have split' : after.arrivals
      = after.ledger.map Processed.envelope ++ after.mailbox.queued := by
    rw [arrived, split, ledgers, mailbox, queue, List.map_append, List.append_assoc]
    rfl
  constructor
  case stories =>
    intro id call found
    rw [recordsOf_of_happenings id happenings]
    exact carried.stories id call found
  case unborn =>
    intro id missing
    rw [recordsOf_of_happenings id happenings]
    exact carried.unborn id missing
  case running =>
    intro _
    refine ⟨?_, split'⟩
    rw [mailbox, sameClosed, unclosed]
  case stopped =>
    intro halted
    rw [runs] at halted
    cases halted
  case ordered =>
    exact ⟨after.mailbox.queued, split'.symm⟩
  case distinct =>
    rw [arrived]
    exact chronicle.distinct

theorem Chronicle.finish (chronicle : before.Chronicle) (serving : before.isServing)
    {log : List (Happening V)} {heralds : List Event} {error : Option SceneError}
    (cause : EndCause before log heralds error after) (later : Later before after) :
    after.Chronicle := by
  have growth := cause.evolves
  have happenings := cause.happenings
  obtain ⟨unclosed, split⟩ := chronicle.running serving.runs
  have mailbox : after.mailbox = { before.mailbox.close.1 with queued := [] } := growth.mailbox
  have arrived := cause.arrivals
  have silent := cause.unheard
  have carried : CarriesOn before after (before.endLog log error) := by
    refine chronicle.carriesOn growth.calls (fun id call found => ?_) fun id missing => silent id
    rw [silent, List.append_nil, endChanges, Call.applyAll_append,
      show (before.mailbox.queued.map fun envelope : Envelope V =>
          (.reply envelope.caller .closed : CallChange V))
        = (before.mailbox.queued.map Envelope.caller).map fun caller => .reply caller .closed by
          rw [List.map_map]; rfl]
    refine (((chronicle.stories id call found).later later).allNotified _ _).allClosed
      cause.ending _ fun waits => ?_
    obtain ⟨envelope, queued, rfl⟩ := List.mem_map.mp waits
    exact (chronicle.pending serving.runs queued).2
  constructor
  case stories =>
    intro id call found
    rw [recordsOf_of_happenings id happenings]
    exact carried.stories id call found
  case unborn =>
    intro id missing
    rw [recordsOf_of_happenings id happenings]
    exact carried.unborn id missing
  case running =>
    intro runs
    simp [backendRuns, cause.backend] at runs
  case stopped =>
    intro _
    rw [mailbox]
    exact ⟨rfl, rfl⟩
  case ordered =>
    rw [arrived, cause.ledger, split]
    exact List.prefix_append _ _
  case distinct =>
    rw [arrived]
    exact chronicle.distinct

/-! ## Along a run -/

theorem Chronicle.make (chronicle : before.Chronicle) (request : Request V)
    (later : Later before (before.makeCall request)) : (before.makeCall request).Chronicle := by
  have growth := before.makeCall_evolves request
  generalize before.makeCall request = after at growth later ⊢
  have calls (id : Nat) :
      after.calls[id]? = (before.calls ++ [({ request } : Call V)])[id]? := by
    rw [growth.calls]
    cases (before.calls ++ [({ request } : Call V)])[id]? <;> rfl
  refine chronicle.rest growth.happenings ⟨fun id call found => ?_, fun id missing => ?_⟩ rfl rfl
    (by simp only [backendRuns, growth.backend]) (by rw [growth.mailbox]) (by rw [growth.mailbox])
  · rw [calls, List.getElem?_append] at found
    rw [List.filter_nil, List.append_nil]
    split at found
    · exact (chronicle.stories id call found).later later
    · rename_i beyond
      have born : before.calls[id]? = none :=
        List.getElem?_eq_none_iff.mpr (Nat.le_of_not_lt beyond)
      have own : call = { request } := by
        have inside := (List.getElem?_eq_some_iff.mp found).1
        simp only [List.length_singleton, Nat.lt_one_iff] at inside
        rw [inside] at found
        exact (Option.some.inj found).symm
      rw [chronicle.unborn id born, own]
      exact .fresh
  · rw [List.filter_nil, List.append_nil]
    rw [calls, List.getElem?_append] at missing
    split at missing
    · exact chronicle.unborn id missing
    · rename_i beyond
      exact chronicle.unborn id (List.getElem?_eq_none_iff.mpr (Nat.le_of_not_lt beyond))

theorem Chronicle.cancel (chronicle : before.Chronicle) {id : Nat} {call : Call V}
    (found : before.calls[id]? = some call) (unfinished : call.isUnfinished = true)
    (later : Later before (before.cancel id)) : (before.cancel id).Chronicle := by
  obtain ⟨growth, -⟩ := before.cancel_evolves found unfinished
  generalize before.cancel id = after at growth later ⊢
  obtain ⟨queued, closed⟩ := leave_queue before.mailbox id
  have own (other : Nat) : [(.cancelled id : Happening V)].filter (Happening.isAbout other)
      = if id = other then [.cancelled id] else [] := by
    by_cases same : id = other <;> simp [same, Happening.isAbout, Happening.subject?]
  have carried : CarriesOn before after [.cancelled id] := by
    refine chronicle.carriesOn growth.calls (fun other othersCall present => ?_)
      fun other missing => ?_
    · rw [own, Call.applyAll_cons, Call.applyAll_nil]
      by_cases same : id = other
      · subst same
        obtain rfl : call = othersCall := Option.some.inj (found.symm.trans present)
        have told := (chronicle.stories id call found).later later
        simpa [Call.apply] using told.cancelled unfinished
      · simpa [Call.apply, same] using (chronicle.stories other othersCall present).later later
    · rw [own]
      refine if_neg fun same => ?_
      rw [same, missing] at found
      cases found
  exact chronicle.rest growth.happenings carried rfl rfl
    (by simp only [backendRuns, growth.backend]) (by rw [growth.mailbox, closed])
    (by rw [growth.mailbox, queued])

theorem Chronicle.lose (chronicle : before.Chronicle) (later : Later before before.dropTasks) :
    before.dropTasks.Chronicle := by
  have halted := before.backendRuns_dropTasks
  constructor
  case stories =>
    intro id call found
    obtain ⟨earlier, present, rfl⟩ := origin_of_dropTasks found
    have story := (chronicle.stories id earlier present).later later
    split
    case isTrue unfinished => exact story.destroyed unfinished halted
    case isFalse => exact story
  case unborn =>
    intro id missing
    rw [calls_dropTasks, Option.map_eq_none_iff] at missing
    exact chronicle.unborn id missing
  case running =>
    intro runs
    rw [halted] at runs
    cases runs
  case stopped =>
    intro _
    exact ⟨rfl, rfl⟩
  case ordered =>
    exact chronicle.ordered
  case distinct =>
    exact chronicle.distinct

theorem Chronicle.advance (chronicle : before.Chronicle) (steered : before.Steered)
    (step : Advance before after) : after.Chronicle := by
  have later := step.later steered
  cases step with
  | drifts growth =>
      refine chronicle.rest growth.happenings (chronicle.carriesOn growth.calls
        (fun id call found => ?_) fun _ _ => rfl) rfl rfl
        (by simp only [backendRuns, growth.backend]) (by rw [growth.mailbox])
        (by rw [growth.mailbox])
      simpa using (chronicle.stories id call found).later later
  | makes request => exact chronicle.make request later
  | turns found => exact chronicle.turn steered found later
  | cancels found unfinished => exact chronicle.cancel found unfinished later
  | opens fresh =>
      have growth := before.openUp_evolves
      have ran : before.backendRuns = true := by simp [backendRuns, fresh]
      have runs : before.openUp.backendRuns = true := isServing.runs ⟨_, _, growth.backend⟩
      refine chronicle.rest growth.happenings (chronicle.carriesOn growth.calls
        (fun id call found => ?_) fun _ _ => by simp [Happening.isAbout, Happening.subject?])
        rfl rfl (by rw [runs, ran]) (by rw [growth.mailbox]) (by rw [growth.mailbox])
      simpa [Happening.isAbout, Happening.subject?] using
        (chronicle.stories id call found).later later
  | processes serving unstopped undue taken =>
      exact chronicle.serve steered serving unstopped taken later
  | ends serving cause => exact chronicle.finish serving cause later
  | loses => exact chronicle.lose later

theorem Passed.chronicle {session : Session V} (passed : Passed session) :
    session.Chronicle := by
  induction passed with
  | initial initial => exact initial.chronicle
  | advance passed step inductionHypothesis =>
      exact inductionHypothesis.advance passed.steered step

end Session

end BoundedScene
