import BoundedScene.Proofs.Chronicle
import BoundedScene.Proofs.Refinement
import BoundedScene.Proofs.Verdict

/-!
Contract: a scene does what the reference does with the inputs of its journal.

Owns:
- `ExplainedBy`, the responses, tables, signals, cleanups and events of a scene as the
  reference makes them of given inputs;
- `Accounted`, the invariant that the journal's own inputs explain the scene.

Main statement: `Reachable.explained`.

Does not own: what the callers make of their replies.
-/

namespace BoundedScene

open BoundedScene.Supervision (Control)

namespace Happening

variable {V : Type}

def isOpening : Happening V → Bool
  | .opened => true
  | _ => false

end Happening

namespace Session

variable {V : Type}

/-! ## What the reference explains -/

/-- The inputs of the reference that the journal amounts to so far. -/
def inputs (session : Session V) : List (Input V) :=
  inputsOf session.happenings

/-- The reference at the end of the journal. -/
def reference (session : Session V) : Reference V :=
  Reference.after session.inputs

/-- The deadline at which the backend ended, if it did so at one. -/
def fired? (session : Session V) : Option (TimeoutKind × Span) :=
  session.history.findSome? Happening.deadline?

/-- The props that the processed commands left, in the order of a teardown. -/
def remains (session : Session V) : List (StoredProp V) :=
  session.visiting.arrange (Processed.leftover session.ledger)

/-- The props whose cleanup a teardown has run. -/
def tornDown (session : Session V) : List (StoredProp V) :=
  if session.backend = .returned then session.remains.filter StoredProp.hasCleanup else []

/-- The events before that of the first command. -/
def overture (session : Session V) : List Event :=
  if session.happenings.any Happening.isOpening then [session.startedEvent] else []

/-- The events that tell of the outcomes of commands. -/
def announcements (dealt : List (Envelope V × Outcome V)) : List Event :=
  dealt.map fun deal => announcement deal.1.command deal.2.response deal.2.woken

/-- The events after that of the last command. -/
def finale (session : Session V) : List Event :=
  if session.backend = .returned then
    (session.fired?.toList.map fun deadline => timeoutEvent deadline.1 deadline.2)
      ++ farewell session.remains.length
        (session.fired?.map fun deadline => .timeout deadline.1 deadline.2)
        (session.remains.filterMap cleanupFailure?)
  else []

/-- A scene is what the reference makes of given inputs: the processed commands with
their responses, the stored values and the waiters while the backend runs, who was
signalled, which cleanups were run, and the events of the backend. -/
structure ExplainedBy (session : Session V) (inputs : List (Input V)) : Prop where
  ledger : session.ledger = (Reference.outcomes inputs).map Outcome.entry
  props : session.backendRuns = true →
    session.props.content? = (Reference.after inputs).props
  waiters : session.backendRuns = true → ∀ topic,
    (session.subscriptions.waiters topic).filter session.listens
      = (Reference.after inputs).waiting topic
  signals : ∀ id call, session.calls[id]? = some call →
    (call.signal = .raised ↔ id ∈ (Reference.after inputs).taken)
  cleanups : session.cleanups.map CleanupRun.prop
    = (Reference.outcomes inputs).flatMap (fun deal => deal.2.ran) ++ session.tornDown
  events : session.backendEvents
    = session.overture ++ announcements (Reference.outcomes inputs) ++ session.finale

/-! ## Who listens -/

variable {before after : Session V}

/-- A caller whose command was processed listens until it goes. -/
theorem Story.listens_iff {id : Nat} {call : Call V} {records : List (Happening V)}
    (story : Story before id call records) (runs : before.backendRuns = true)
    (processed : records.filterMap Happening.processed? ≠ []) :
    call.listens = true ↔ ∀ happening ∈ records, happening.input? ≠ some (.departure id) := by
  cases story with
  | fresh => simp at processed
  | seeking => simp [Happening.processed?] at processed
  | queued => simp [Happening.processed?] at processed
  | asking => simp [Happening.processed?] at processed
  | overtaken => simp [Happening.processed?] at processed
  | answered => simp [Happening.processed?] at processed
  | refused => simp [Happening.processed?] at processed
  | overtakenTold => simp [Happening.processed?] at processed
  | destroyed lived unfinished stopped =>
      rw [runs] at stopped
      cases stopped
  | cancelled lived unfinished => simp [Call.listens, Happening.input?]
  | _ => simp [Call.listens, registeredStory, processedStory, Happening.input?]

theorem subject?_of_input? {happening : Happening V} {input : Input V}
    (told : happening.input? = some input) : happening.subject? = some input.caller := by
  cases happening <;> cases told <;> rfl

theorem mem_gone_reference (id : Nat) :
    id ∈ before.reference.gone
      ↔ ∃ happening ∈ before.recordsOf id, happening.input? = some (.departure id) := by
  unfold reference
  rw [Reference.mem_gone_after]
  constructor
  · intro member
    obtain ⟨happening, recorded, told⟩ := List.mem_filterMap.mp member
    exact ⟨happening, (mem_recordsOf (subject?_of_input? told)).mpr recorded, told⟩
  · rintro ⟨happening, member, told⟩
    exact List.mem_filterMap.mpr ⟨happening, (List.mem_filter.mp member).1, told⟩

/-- Whose command was processed is a call with a record of that. -/
theorem Chronicle.processed (chronicle : before.Chronicle) {id : Nat}
    (served : id ∈ before.ledger.map Processed.caller) :
    (∃ call, before.calls[id]? = some call)
      ∧ (before.recordsOf id).filterMap Happening.processed? ≠ [] := by
  obtain ⟨entry, entered, rfl⟩ := List.mem_map.mp served
  have own : .processed entry ∈ before.recordsOf entry.caller :=
    (mem_recordsOf rfl).mpr (mem_ledger.mp entered)
  constructor
  · cases found : before.calls[entry.caller]? with
    | some call => exact ⟨call, rfl⟩
    | none =>
        rw [chronicle.unborn _ found] at own
        cases own
  · intro none
    have some : entry ∈ (before.recordsOf entry.caller).filterMap Happening.processed? :=
      List.mem_filterMap.mpr ⟨_, own, rfl⟩
    rw [none] at some
    cases some

theorem Chronicle.listens (chronicle : before.Chronicle) (runs : before.backendRuns = true)
    {id : Nat} (served : id ∈ before.ledger.map Processed.caller) :
    before.listens id = decide (id ∉ before.reference.gone) := by
  obtain ⟨⟨call, found⟩, processed⟩ := chronicle.processed served
  have iff := (chronicle.stories id call found).listens_iff runs processed
  rw [Session.listens, found, Option.any_some, Bool.eq_iff_iff, iff, decide_eq_true_iff,
    mem_gone_reference]
  push Not
  exact Iff.rfl

/-! ## The invariant -/

/-- The inputs of the journal explain the scene, and the registered waiters and those
taken are callers of processed commands, each listed once. -/
structure Accounted (session : Session V) : Prop where
  fresh : session.backend = .fresh →
    session.happenings.any Happening.isOpening = false ∧ session.ledger = []
  distinct : session.subscriptions.Distinct
  known : ∀ waiter ∈ session.reference.taken ++ session.subscriptions.allWaiters,
    waiter ∈ session.ledger.map Processed.caller
  once : (session.reference.taken ++ session.subscriptions.allWaiters).Nodup
  simulates : session.backendRuns = true → session.Simulates session.reference
  ledger : session.ledger = (Reference.outcomes session.inputs).map Outcome.entry
  signals : ∀ id call, session.calls[id]? = some call →
    (call.signal = .raised ↔ id ∈ session.reference.taken)
  cleanups : session.cleanups.map CleanupRun.prop
    = (Reference.outcomes session.inputs).flatMap (fun deal => deal.2.ran) ++ session.tornDown
  events : session.backendEvents
    = session.overture ++ announcements (Reference.outcomes session.inputs) ++ session.finale

theorem IsInitial.accounted {session : Session V} (initial : session.IsInitial) :
    session.Accounted := by
  have silent : session.happenings = [] := by simp [happenings, initial.journal]
  have none : session.inputs = [] := by simp [inputs, inputsOf, silent]
  constructor
  case fresh =>
    intro _
    simp [ledger, silent]
  case distinct =>
    simp [initial.subscriptions, Subscriptions.Distinct]
  case known =>
    simp [reference, none, Reference.after, initial.subscriptions, Subscriptions.allWaiters]
  case once =>
    simp [reference, none, Reference.after, initial.subscriptions, Subscriptions.allWaiters]
  case simulates =>
    intro _
    constructor
    · rw [initial.props, reference, none]
      rfl
    · intro topic
      rw [initial.subscriptions, reference, none]
      rfl
  case ledger =>
    simp [ledger, silent, none, Reference.outcomes, Reference.outcomesFrom]
  case signals =>
    intro id call found
    simp [initial.calls] at found
  case cleanups =>
    simp [cleanups, silent, none, Reference.outcomes, Reference.outcomesFrom, tornDown,
      initial.backend]
  case events =>
    simp [initial.events, overture, silent, none, Reference.outcomes, Reference.outcomesFrom,
      announcements, finale, initial.backend]

theorem inputs_of_happenings {log : List (Happening V)}
    (happenings : after.happenings = before.happenings ++ log) :
    after.inputs = before.inputs ++ inputsOf log := by
  unfold inputs inputsOf
  rw [happenings, List.filterMap_append]

/-! ## Steps in which no command is processed -/

/-- All that such a step tells the reference is who goes. -/
theorem departures_of_calm {log : List (Happening V)}
    (calm : ∀ happening ∈ log, happening.isCalm = true) :
    ∀ input ∈ inputsOf log, ∃ caller, input = .departure caller := by
  intro input member
  obtain ⟨happening, logged, told⟩ := List.mem_filterMap.mp member
  have still := calm happening logged
  cases happening <;> cases told <;> first | exact ⟨_, rfl⟩ | cases still

/-- A step in which no command is processed and the backend goes on as before, or is
fresh and begins. -/
theorem Accounted.proceed (accounted : before.Accounted) (judged : before.Judged)
    {log : List (Happening V)} (calm : ∀ happening ∈ log, happening.isCalm = true)
    (happenings : after.happenings = before.happenings ++ log)
    (visiting : after.visiting = before.visiting) (props : after.props = before.props)
    (subscriptions : after.subscriptions = before.subscriptions)
    (backend : after.backend = before.backend ∧ log.any Happening.isOpening = false
      ∨ before.backendRuns = true ∧ after.isServing)
    (signals : ∀ id call, after.calls[id]? = some call →
      (call.signal = .raised ↔ id ∈ before.reference.taken))
    (events : after.backendEvents = after.overture
      ++ announcements (Reference.outcomes before.inputs) ++ before.finale) :
    after.Accounted := by
  have departures := departures_of_calm calm
  have inputs := inputs_of_happenings happenings
  obtain ⟨idle, taken⟩ := Reference.idle_of_departures departures before.reference
  have reference : after.reference = (inputsOf log).foldl Reference.next before.reference := by
    unfold Session.reference
    rw [inputs, Reference.after_append]
  have outcomes : Reference.outcomes after.inputs = Reference.outcomes before.inputs := by
    have none : Reference.outcomesFrom (Reference.after before.inputs) (inputsOf log) = [] := idle
    rw [inputs, Reference.outcomes_append, none, List.append_nil]
  have ledgers : after.ledger = before.ledger := by
    rw [ledger_of_happenings before happenings, Happening.processed_of_calm calm,
      List.append_nil]
  have cleanups : after.cleanups = before.cleanups := by
    rw [cleanups_of_happenings before happenings, Happening.cleaned_of_calm calm,
      List.append_nil]
  have remains : after.remains = before.remains := by
    unfold Session.remains
    rw [visiting, ledgers]
  have returned : after.backend = .returned ↔ before.backend = .returned := by
    rcases backend with ⟨same, -⟩ | ⟨ran, absolute, inactivity, serving⟩
    · rw [same]
    · rw [serving]
      constructor
      · intro now
        cases now
      · intro returned
        simp [backendRuns, returned] at ran
  have fired (ended : before.backend = .returned) : after.fired? = before.fired? := by
    unfold fired?
    rw [history_append happenings (judged.ended ended).1]
  constructor
  case fresh =>
    intro fresh
    rcases backend with ⟨same, unopened⟩ | ⟨-, absolute, inactivity, serving⟩
    · obtain ⟨silent, empty⟩ := accounted.fresh (same ▸ fresh)
      rw [happenings, List.any_append, silent, unopened, ledgers]
      exact ⟨rfl, empty⟩
    · rw [serving] at fresh
      cases fresh
  case distinct =>
    rw [subscriptions]
    exact accounted.distinct
  case known =>
    rw [reference, taken, subscriptions, ledgers]
    exact accounted.known
  case once =>
    rw [reference, taken, subscriptions]
    exact accounted.once
  case simulates =>
    intro runs
    have ran : before.backendRuns = true := by
      rcases backend with ⟨same, -⟩ | ⟨ran, -⟩
      · simpa only [backendRuns, same] using runs
      · exact ran
    rw [reference]
    exact ((accounted.simulates ran).departures departures).of_same props subscriptions
  case ledger =>
    rw [ledgers, outcomes]
    exact accounted.ledger
  case signals =>
    rw [reference, taken]
    exact signals
  case cleanups =>
    rw [cleanups, outcomes, accounted.cleanups]
    simp only [tornDown, remains, returned]
  case events =>
    rw [events, outcomes]
    congr 1
    unfold finale
    by_cases ended : before.backend = .returned
    · rw [if_pos ended, if_pos (returned.mpr ended), fired ended, remains]
    · rw [if_neg ended, if_neg fun now => ended (returned.mp now)]

/-! ## The signals of a step -/

theorem signal_apply {id : Nat} {change : CallChange V}
    (silent : ∀ target slot, change ≠ .signal target slot) (call : Call V) :
    (Call.apply id call change).signal = call.signal := by
  cases change with
  | signal target slot => exact absurd rfl (silent target slot)
  | _ => simp only [Call.apply]; split <;> rfl

theorem signal_applyAll {id : Nat} {changes : List (CallChange V)}
    (silent : ∀ change ∈ changes, ∀ target slot, change ≠ .signal target slot) (call : Call V) :
    (Call.applyAll id changes call).signal = call.signal := by
  induction changes generalizing call with
  | nil => rfl
  | cons first rest inductionHypothesis =>
      rw [Call.applyAll_cons, inductionHypothesis fun change member =>
        silent change (List.mem_cons_of_mem _ member)]
      exact signal_apply (silent first (List.mem_cons_self ..)) call

/-- Of several waiters that are told the same, those that listen take notice. -/
theorem signal_notified (id : Nat) (targets : List Nat) (slot : SignalSlot) (call : Call V) :
    (Call.applyAll id (targets.map fun target => .signal target slot) call).signal
      = if id ∈ targets ∧ call.listens = true then slot else call.signal := by
  induction targets generalizing call with
  | nil => simp
  | cons first rest inductionHypothesis =>
      rw [List.map_cons, Call.applyAll_cons, inductionHypothesis]
      by_cases hears : first = id ∧ call.listens = true
      · have deaf : (Call.apply id call (.signal first slot)) = { call with signal := slot } :=
          if_pos hears
        have still : ({ call with signal := slot } : Call V).listens = call.listens := rfl
        have told : id ∈ first :: rest ∧ call.listens = true :=
          ⟨List.mem_cons.mpr (.inl hears.1.symm), hears.2⟩
        rw [deaf, still, if_pos told]
        split <;> rfl
      · have same : Call.apply id call (.signal first slot) = call := if_neg hears
        rw [same]
        by_cases listens : call.listens = true
        · have other : id ≠ first := fun equal => hears ⟨equal.symm, listens⟩
          simp [listens, other]
        · simp [listens]

theorem Accounted.signals_of_calls (accounted : before.Accounted)
    {changes : List (CallChange V)}
    (calls : ∀ id : Nat, after.calls[id]? = before.calls[id]?.map (Call.applyAll id changes))
    (silent : ∀ change ∈ changes, ∀ target slot, change ≠ .signal target slot) (id : Nat)
    (call : Call V) (found : after.calls[id]? = some call) :
    call.signal = .raised ↔ id ∈ before.reference.taken := by
  rw [calls] at found
  obtain ⟨earlier, present, rfl⟩ := Option.map_eq_some_iff.mp found
  rw [signal_applyAll silent]
  exact accounted.signals id earlier present

theorem CallTurn.silent {id : Nat} {call : Call V} {log : List (Happening V)}
    {changes : List (CallChange V)} {mailbox : Mailbox (Envelope V)}
    (turn : CallTurn before id call log changes mailbox) :
    ∀ change ∈ changes, ∀ target slot, change ≠ .signal target slot := by
  cases turn <;> simp

theorem unopened_of_isByCall {id : Nat} {log : List (Happening V)}
    (byCall : ∀ happening ∈ log, happening.isByCall id) :
    log.any Happening.isOpening = false := by
  refine List.any_eq_false.mpr fun happening member => ?_
  have kind := byCall happening member
  cases happening <;> first | exact Bool.false_ne_true | cases kind

/-! ## The steps of a run -/

theorem overture_append {log : List (Happening V)}
    (happenings : after.happenings = before.happenings ++ log)
    (unopened : log.any Happening.isOpening = false)
    (limits : after.absolute = before.absolute ∧ after.inactivity = before.inactivity) :
    after.overture = before.overture := by
  unfold overture startedEvent
  rw [happenings, List.any_append, unopened, Bool.or_false, limits.1, limits.2]

/-- A step of which the backend takes no notice. -/
theorem Accounted.drift (accounted : before.Accounted) (judged : before.Judged)
    {log : List (Happening V)} (calm : ∀ happening ∈ log, happening.isCalm = true)
    (unopened : log.any Happening.isOpening = false) {changes : List (CallChange V)}
    {earlier : Session V} (growth : Evolves log changes [] earlier after)
    (sameHappenings : earlier.happenings = before.happenings)
    (sameTables : earlier.visiting = before.visiting ∧ earlier.props = before.props
      ∧ earlier.subscriptions = before.subscriptions ∧ earlier.backend = before.backend)
    (sameLimits : earlier.absolute = before.absolute ∧ earlier.inactivity = before.inactivity)
    (sameEvents : earlier.backendEvents = before.backendEvents)
    (signals : ∀ id call, after.calls[id]? = some call →
      (call.signal = .raised ↔ id ∈ before.reference.taken)) :
    after.Accounted := by
  obtain ⟨visiting, props, subscriptions, backend⟩ := sameTables
  have happenings : after.happenings = before.happenings ++ log := by
    rw [growth.happenings, sameHappenings]
  have overture := overture_append happenings unopened
    ⟨growth.absolute.trans sameLimits.1, growth.inactivity.trans sameLimits.2⟩
  refine accounted.proceed judged calm happenings (growth.visiting.trans visiting)
    (growth.props.trans props) (growth.subscriptions.trans subscriptions)
    (.inl ⟨growth.backend.trans backend, unopened⟩) signals ?_
  rw [growth.events, sameEvents, List.append_nil, overture]
  exact accounted.events

theorem inputsOf_isByCleanup {log : List (Happening V)}
    (byCleanup : ∀ happening ∈ log, happening.isByCleanup) : inputsOf log = [] := by
  refine List.filterMap_eq_nil_iff.mpr fun happening member => ?_
  have kind := byCleanup happening member
  cases happening <;> first | rfl | cases kind

theorem unopened_of_isByCleanup {log : List (Happening V)}
    (byCleanup : ∀ happening ∈ log, happening.isByCleanup) :
    log.any Happening.isOpening = false := by
  refine List.any_eq_false.mpr fun happening member => ?_
  have kind := byCleanup happening member
  cases happening <;> first | exact Bool.false_ne_true | cases kind

theorem inputsOf_serveLog (envelope : Envelope V) :
    inputsOf (before.serveLog envelope) = [.command envelope] := by
  have cleaned : inputsOf (before.effect envelope.caller envelope.command).log = [] :=
    inputsOf_isByCleanup fun _ member => isByCleanup_of_mem_effect_log member
  unfold inputsOf at cleaned ⊢
  unfold serveLog
  rw [List.filterMap_append, cleaned]
  rfl

/-- Whose command is in the mailbox has had none processed. -/
theorem Chronicle.unserved (chronicle : before.Chronicle) (runs : before.backendRuns = true)
    {envelope : Envelope V} (queued : envelope ∈ before.mailbox.queued) :
    envelope.caller ∉ before.ledger.map Processed.caller := fun served =>
  (chronicle.processed served).2 (chronicle.pending runs queued).2

/-- A command of a caller comes to what it comes to in the reference. -/
theorem Accounted.deals (accounted : before.Accounted) (chronicle : before.Chronicle)
    (runs : before.backendRuns = true) (caller : Nat) (command : Command V) :
    Deals before before.reference caller command := by
  have live : ∀ waiter ∈ before.subscriptions.allWaiters,
      before.listens waiter = decide (waiter ∉ before.reference.gone) := fun waiter member =>
    chronicle.listens runs (accounted.known waiter (List.mem_append_right _ member))
  exact (accounted.simulates runs).deals accounted.distinct live caller command

/-- Whoever is taken or registered after a command was so before, or is its caller. -/
theorem Accounted.waiters_effect (accounted : before.Accounted) {caller : Nat}
    {command : Command V} (deals : Deals before before.reference caller command) :
    ((before.reference.perform caller command).2.taken
        ++ (before.effect caller command).subscriptions.allWaiters).Subperm
      (before.reference.taken ++ before.subscriptions.allWaiters ++ [caller]) := by
  have registered := (Session.waiters_effect accounted.distinct caller command).2
  rw [Reference.taken_perform, ← deals.woken, List.append_assoc, List.append_assoc]
  exact (List.subperm_append_left _).mpr registered

/-- A caller has its signal after a command if it had it before or the command took it. -/
theorem Accounted.signal_effect (accounted : before.Accounted) {caller : Nat}
    {command : Command V} (deals : Deals before before.reference caller command) {id : Nat}
    {call : Call V} (present : before.calls[id]? = some call) :
    (if id ∈ (before.effect caller command).woken ∧ call.listens = true then .raised
      else call.signal) = SignalSlot.raised
      ↔ id ∈ (before.reference.perform caller command).2.taken := by
  rw [Reference.taken_perform, ← deals.woken, List.mem_append]
  by_cases member : id ∈ (before.effect caller command).woken
  · have listens := listens_of_mem_woken accounted.distinct member
    rw [Session.listens, present, Option.any_some] at listens
    rw [if_pos ⟨member, listens⟩]
    simp [member]
  · rw [if_neg fun both => member both.1, accounted.signals id call present]
    simp [member]

/-- The caller of a command in the mailbox is neither taken nor registered. -/
theorem Accounted.unlisted (accounted : before.Accounted) (chronicle : before.Chronicle)
    (runs : before.backendRuns = true) {envelope : Envelope V}
    (queued : envelope ∈ before.mailbox.queued) :
    (before.reference.taken ++ before.subscriptions.allWaiters ++ [envelope.caller]).Nodup := by
  refine List.nodup_append.mpr ⟨accounted.once, List.nodup_singleton _, ?_⟩
  rintro waiter old caller own rfl
  exact chronicle.unserved runs queued (List.mem_singleton.mp own ▸ accounted.known waiter old)

theorem unopened_serveLog (session : Session V) (envelope : Envelope V) :
    (session.serveLog envelope).any Happening.isOpening = false := by
  have cleaned : (session.effect envelope.caller envelope.command).log.any
      Happening.isOpening = false :=
    unopened_of_isByCleanup fun _ member => isByCleanup_of_mem_effect_log member
  rw [serveLog, List.any_append, cleaned]
  rfl

theorem Accounted.serve (accounted : before.Accounted) (chronicle : before.Chronicle)
    (serving : before.isServing) {envelope : Envelope V}
    {rest : Mailbox (Envelope V) × Option Nat}
    (taken : before.mailbox.take? = some (envelope, rest)) :
    (before.serveOne envelope rest).Accounted := by
  obtain ⟨backend, ⟨absolute, inactivity, rfl⟩, growth⟩ := serveOne_evolves serving envelope rest
  generalize before.serveOne envelope rest = after at growth ⊢
  have deals := accounted.deals chronicle serving.runs envelope.caller envelope.command
  have happenings : after.happenings = before.happenings ++ before.serveLog envelope :=
    growth.happenings
  have inputs : after.inputs = before.inputs ++ [.command envelope] := by
    rw [inputs_of_happenings happenings, inputsOf_serveLog]
  have reference : after.reference
      = (before.reference.perform envelope.caller envelope.command).2 := by
    unfold Session.reference
    rw [inputs, Reference.after_append]
    rfl
  have outcomes : Reference.outcomes after.inputs = Reference.outcomes before.inputs
      ++ [(envelope, (before.reference.perform envelope.caller envelope.command).1)] := by
    rw [inputs, Reference.outcomes_append]
    rfl
  have ledgers : after.ledger = before.ledger ++ [before.entryFor envelope] := by
    rw [ledger_of_happenings before happenings, before.processed_serveLog]
  have props : after.props = (before.effect envelope.caller envelope.command).props := growth.props
  have subscriptions : after.subscriptions
      = (before.effect envelope.caller envelope.command).subscriptions := growth.subscriptions
  have unreturned := serving.ne_returned
  have silent : after.backend ≠ .returned := by
    rw [growth.backend]
    exact Backend.noConfusion
  have waiters := accounted.waiters_effect deals
  rw [← reference, ← subscriptions] at waiters
  constructor
  case fresh =>
    intro fresh
    rw [growth.backend] at fresh
    cases fresh
  case distinct =>
    rw [subscriptions]
    exact (Session.waiters_effect accounted.distinct _ _).1
  case known =>
    intro waiter member
    rw [ledgers, List.map_append]
    rcases List.mem_append.mp (waiters.subset member) with old | own
    · exact List.mem_append_left _ (accounted.known waiter old)
    · exact List.mem_append_right _ own
  case once =>
    have queued : envelope ∈ before.mailbox.queued := by
      rw [(take_queue taken).1]
      exact List.mem_cons_self ..
    obtain ⟨list, perm, sublist⟩ := waiters
    exact perm.nodup_iff.mp ((accounted.unlisted chronicle serving.runs queued).sublist sublist)
  case simulates =>
    intro _
    constructor
    · rw [props, reference]
      exact deals.props
    · intro topic
      rw [subscriptions, reference, Reference.gone_perform]
      exact deals.waiting topic
  case ledger =>
    have entry : before.entryFor envelope = Outcome.entry
        (envelope, (before.reference.perform envelope.caller envelope.command).1) := by
      unfold entryFor Outcome.entry
      rw [deals.response]
    rw [ledgers, outcomes, List.map_append, accounted.ledger, entry]
    rfl
  case signals =>
    intro id call found
    rw [growth.calls] at found
    obtain ⟨earlier, present, rfl⟩ := Option.map_eq_some_iff.mp found
    rw [serveChanges, Call.applyAll_append, signal_applyAll (by simp), signal_notified, reference]
    exact accounted.signal_effect deals present
  case cleanups =>
    rw [cleanups_of_happenings before happenings, List.map_append, before.cleaned_serveLog,
      deals.ran, accounted.cleanups, outcomes, List.flatMap_append, tornDown, if_neg unreturned,
      tornDown,
      if_neg silent]
    simp
  case events =>
    have overture := overture_append happenings (before.unopened_serveLog envelope)
      ⟨growth.absolute, growth.inactivity⟩
    have published := growth.events
    rw [show (before.entryFor envelope).response
      = (before.reference.perform envelope.caller envelope.command).1.response from
        deals.response, deals.woken] at published
    rw [published, overture, outcomes, finale, if_neg silent]
    have events : before.backendEvents = _ := accounted.events
    rw [finale, if_neg unreturned] at events
    show before.backendEvents ++ _ = _
    rw [events]
    simp [announcements]

theorem EndCause.inputs {log : List (Happening V)} {heralds : List Event}
    {error : Option SceneError} (cause : EndCause before log heralds error after) :
    inputsOf (before.endLog log error) = []
      ∧ (before.endLog log error).any Happening.isOpening = false := by
  have torn : inputsOf before.teardownLog = [] :=
    inputsOf_isByCleanup fun _ member => isByCleanup_of_mem_teardownLog member
  have unopened : before.teardownLog.any Happening.isOpening = false :=
    unopened_of_isByCleanup fun _ member => isByCleanup_of_mem_teardownLog member
  unfold inputsOf at torn ⊢
  rw [endLog, List.filterMap_append, List.filterMap_append, torn, List.any_append,
    List.any_append, unopened]
  cases cause <;> exact ⟨rfl, rfl⟩

/-- The backend tells of a deadline just if it ends at one. -/
theorem EndCause.heralded (steered : before.Steered) (serving : before.isServing)
    {log : List (Happening V)} {heralds : List Event} {error : Option SceneError}
    (cause : EndCause before log heralds error after) :
    heralds = after.fired?.toList.map fun deadline => timeoutEvent deadline.1 deadline.2 := by
  have fired : error = after.fired?.map fun deadline => .timeout deadline.1 deadline.2 :=
    error_of_end steered serving cause
  cases cause with
  | timedOut unstopped due =>
      cases named : (Session.timeOut before _ _).fired? with
      | none =>
          rw [named] at fired
          cases fired
      | some deadline =>
          rw [named] at fired
          cases fired
          rfl
  | _ =>
      rw [Option.map_eq_none_iff.mp fired.symm]
      rfl

theorem Accounted.finish (accounted : before.Accounted) (steered : before.Steered)
    (holding : before.Holding) (serving : before.isServing) {log : List (Happening V)}
    {heralds : List Event} {error : Option SceneError}
    (cause : EndCause before log heralds error after) : after.Accounted := by
  have growth := cause.evolves
  have happenings := cause.happenings
  obtain ⟨silent, unopened⟩ := cause.inputs
  have inputs : after.inputs = before.inputs := by
    rw [inputs_of_happenings happenings, silent, List.append_nil]
  have reference : after.reference = before.reference := by
    unfold Session.reference
    rw [inputs]
  have returned := cause.backend
  have subscriptions : after.subscriptions = {} := growth.subscriptions
  have unreturned := serving.ne_returned
  have remains : after.remains = before.visiting.arrange before.props.props := by
    unfold Session.remains
    rw [cause.visiting, cause.ledger, holding.kept serving.runs]
  have fired : error = after.fired?.map fun deadline => .timeout deadline.1 deadline.2 :=
    error_of_end steered serving cause
  constructor
  case fresh =>
    intro fresh
    rw [returned] at fresh
    cases fresh
  case distinct =>
    rw [subscriptions]
    exact List.nodup_nil
  case known =>
    intro waiter member
    rw [reference, subscriptions] at member
    rw [cause.ledger]
    refine accounted.known waiter (List.mem_append_left _ ?_)
    simpa [Subscriptions.allWaiters] using member
  case once =>
    rw [reference, subscriptions]
    simpa [Subscriptions.allWaiters] using (List.nodup_append.mp accounted.once).1
  case simulates =>
    intro runs
    simp [backendRuns, returned] at runs
  case ledger =>
    rw [cause.ledger, inputs]
    exact accounted.ledger
  case signals =>
    intro id call found
    rw [growth.calls] at found
    obtain ⟨earlier, present, rfl⟩ := Option.map_eq_some_iff.mp found
    have old := accounted.signals id earlier present
    rw [endChanges, Call.applyAll_append, signal_applyAll (by simp), signal_notified, reference]
    split
    case isTrue released =>
      -- Whoever is released was not taken.
      have untaken : id ∉ before.reference.taken := fun taken =>
        (List.nodup_append.mp accounted.once).2.2 id taken id released.1 rfl
      simp [untaken]
    case isFalse => exact old
  case cleanups =>
    rw [cleanups_of_happenings before happenings, List.map_append, cause.cleaned_endLog,
      accounted.cleanups, inputs, tornDown, if_neg unreturned, tornDown, if_pos returned, remains]
    simp
  case events =>
    have overture := overture_append happenings unopened ⟨growth.absolute, growth.inactivity⟩
    have published := growth.events
    have events : before.backendEvents = _ := accounted.events
    have size : before.props.size = after.remains.length := by
      rw [remains]
      exact (before.visiting.perm _).length_eq.symm
    rw [finale, if_neg unreturned, List.append_nil] at events
    rw [published, overture, inputs, finale, if_pos returned, ← fired,
      ← cause.heralded steered serving, ← size, remains]
    show before.backendEvents ++ _ = _
    rw [events]
    rfl

theorem Accounted.lose (accounted : before.Accounted) : before.dropTasks.Accounted := by
  have halted := before.backendRuns_dropTasks
  have nobody : before.dropTasks.subscriptions.allWaiters = [] := rfl
  have reference : before.dropTasks.reference = before.reference := rfl
  constructor
  case fresh =>
    intro fresh
    simp [backendRuns, fresh] at halted
  case distinct =>
    exact List.nodup_nil
  case known =>
    intro waiter member
    rw [nobody, reference, List.append_nil] at member
    exact accounted.known waiter (List.mem_append_left _ member)
  case once =>
    rw [nobody, reference, List.append_nil]
    exact (List.nodup_append.mp accounted.once).1
  case simulates =>
    intro runs
    rw [halted] at runs
    cases runs
  case ledger =>
    exact accounted.ledger
  case signals =>
    intro id call found
    obtain ⟨earlier, present, rfl⟩ := origin_of_dropTasks found
    have old := accounted.signals id earlier present
    split <;> exact old
  case cleanups =>
    have torn : before.dropTasks.tornDown = before.tornDown := by
      simp only [tornDown, backend_dropTasks_returned]
      rfl
    rw [torn]
    exact accounted.cleanups
  case events =>
    have last : before.dropTasks.finale = before.finale := by
      simp only [finale, backend_dropTasks_returned]
      rfl
    rw [last]
    exact accounted.events

theorem Accounted.advance (accounted : before.Accounted) (steered : before.Steered)
    (holding : before.Holding) (judged : before.Judged) (chronicle : before.Chronicle)
    (step : Advance before after) : after.Accounted := by
  cases step with
  | drifts growth =>
      exact accounted.drift judged (by simp) rfl growth rfl ⟨rfl, rfl, rfl, rfl⟩ ⟨rfl, rfl⟩ rfl
        (accounted.signals_of_calls growth.calls (by simp))
  | makes request =>
      refine accounted.drift judged (by simp) rfl (before.makeCall_evolves request) rfl
        ⟨rfl, rfl, rfl, rfl⟩ ⟨rfl, rfl⟩ rfl fun id call found => ?_
      rw [(before.makeCall_evolves request).calls] at found
      obtain ⟨earlier, present, rfl⟩ := Option.map_eq_some_iff.mp found
      replace present : (before.calls ++ [({ request } : Call V)])[id]? = some earlier := present
      rw [List.getElem?_append] at present
      split at present
      · exact accounted.signals id earlier present
      · rename_i beyond
        have pending : earlier.signal = .pending := by
          have member := List.mem_of_getElem? present
          rw [List.mem_singleton.mp member]
        have untaken : id ∉ before.reference.taken := fun taken => by
          obtain ⟨⟨old, born⟩, -⟩ := chronicle.processed
            (accounted.known id (List.mem_append_left _ taken))
          exact beyond (List.getElem?_eq_some_iff.mp born).1
        rw [Call.applyAll_nil, pending]
        simp [untaken]
  | turns found =>
      obtain ⟨log, changes, mailbox, turn, growth, -⟩ := before.resumeCall_turnsBy _ _ found
      exact accounted.drift judged (fun happening member => (turn.isByCall happening member).calm)
        (unopened_of_isByCall turn.isByCall) growth rfl ⟨rfl, rfl, rfl, rfl⟩ ⟨rfl, rfl⟩ rfl
        (accounted.signals_of_calls growth.calls turn.silent)
  | cancels found unfinished =>
      obtain ⟨growth, -⟩ := before.cancel_evolves found unfinished
      exact accounted.drift judged (by simp [Happening.isCalm]) rfl growth rfl
        ⟨rfl, rfl, rfl, rfl⟩ ⟨rfl, rfl⟩ rfl (accounted.signals_of_calls growth.calls (by simp))
  | opens fresh =>
      have growth := before.openUp_evolves
      obtain ⟨unopened, empty⟩ := accounted.fresh fresh
      have ran : before.backendRuns = true := by simp [backendRuns, fresh]
      refine accounted.proceed judged (by simp [Happening.isCalm]) growth.happenings
        growth.visiting growth.props growth.subscriptions (.inr ⟨ran, _, _, growth.backend⟩)
        (accounted.signals_of_calls growth.calls (by simp)) ?_
      have none : Reference.outcomes before.inputs = [] := by
        have entries := accounted.ledger
        rw [empty] at entries
        exact List.map_eq_nil_iff.mp entries.symm
      have silent : before.backendEvents = [] := by
        rw [accounted.events, none]
        simp [overture, unopened, announcements, finale, fresh]
      have happenings : before.openUp.happenings = before.happenings ++ [.opened] :=
        growth.happenings
      have started : before.openUp.startedEvent = before.startedEvent := by
        unfold startedEvent
        rw [show before.openUp.absolute = before.absolute from growth.absolute,
          show before.openUp.inactivity = before.inactivity from growth.inactivity]
      rw [growth.events, none, overture, happenings, started]
      show before.backendEvents ++ _ = _
      simp [silent, announcements, finale, fresh, Happening.isOpening]
  | processes serving unstopped undue taken => exact accounted.serve chronicle serving taken
  | ends serving cause => exact accounted.finish steered holding serving cause
  | loses => exact accounted.lose

theorem Passed.accounted {session : Session V} (passed : Passed session) :
    session.Accounted := by
  induction passed with
  | initial initial => exact initial.accounted
  | advance passed step inductionHypothesis =>
      exact inductionHypothesis.advance passed.steered passed.holding passed.judged
        passed.chronicle step

/-- The inputs of its own journal explain a scene. -/
theorem Reachable.explained {session : Session V} (reachable : Reachable session) :
    session.ExplainedBy session.inputs := by
  have accounted := reachable.passed.accounted
  have chronicle := reachable.passed.chronicle
  exact {
    ledger := accounted.ledger
    props := fun runs => (accounted.simulates runs).props
    waiters := fun runs => (accounted.simulates runs).listening fun waiter member =>
      chronicle.listens runs (accounted.known waiter (List.mem_append_right _ member))
    signals := accounted.signals
    cleanups := accounted.cleanups
    events := accounted.events }

end Session

end BoundedScene
