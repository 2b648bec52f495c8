import BoundedScene.Proofs.EventStream

/-!
Contract: the deadlines of a scene, read off its journal.

Owns:
- `due?`, the millisecond at which a deadline is due according to the journal alone, and
  `firstDue?`, the deadline that is due first;
- `Held`, that a cleanup kept the backend busy across an instant;
- `Lapse`, what a step of a scene means for its deadlines;
- which deadlines are armed, and what follows once one of them has fired.

Main statements: `Passed.armed` and `Passed.timedOut`.

Does not own: at which instants the tasks take their turns.
-/

namespace BoundedScene

open BoundedScene.Supervision (Control)

namespace Clock

/-- The instant at which a millisecond begins. -/
def instantOf (millisecond : Nat) : Nat :=
  millisecond * Span.nanosecondsPerMillisecond

theorem instantOf_le_iff {millisecond instant : Nat} :
    instantOf millisecond ≤ instant ↔ millisecond ≤ instant / Span.nanosecondsPerMillisecond :=
  (Nat.le_div_iff_mul_le (by decide)).symm

@[simp] theorem instantOf_le_instantOf {first second : Nat} :
    instantOf first ≤ instantOf second ↔ first ≤ second :=
  Nat.mul_le_mul_right_iff (by decide)

@[simp] theorem instantOf_lt_instantOf {first second : Nat} :
    instantOf first < instantOf second ↔ first < second :=
  Nat.mul_lt_mul_right (by decide)

/-- A deadline that is set now is due at a later instant. -/
theorem lt_deadline (clock : Clock) {after : Span} (positive : 0 < after.nanoseconds) :
    clock.now < instantOf (clock.deadline after) := by
  have later : clock.now < clock.instantAfter after := by
    unfold instantAfter
    split
    · exact Nat.lt_add_of_pos_right positive
    · exact Nat.lt_add_of_pos_right (by decide)
  unfold instantOf deadline roundUp Span.nanosecondsPerMillisecond
  omega

end Clock

namespace Happening

variable {V : Type}

/-- The backend opens, or a command was processed: the inactivity deadline counts from
here. -/
def isActivity (happening : Happening V) : Bool :=
  happening.isOpening || happening.processed?.isSome

/-- Neither the start nor the work nor the end of the backend. -/
def isIdle (happening : Happening V) : Bool :=
  happening.isCalm && !happening.isOpening

/-- Some handle asks the backend to stop. -/
def asksToStop : Happening V → Bool
  | .stopRequested => true
  | .aborted _ => true
  | _ => false

/-- It takes no time, and no deadline depends on it. -/
theorem inert_of_isIdle {happening : Happening V} (idle : happening.isIdle = true) :
    happening.isActivity = false ∧ happening.duration = 0 := by
  cases happening <;> first | exact ⟨rfl, rfl⟩ | cases idle

theorem inert_of_isByCleanup {happening : Happening V} (byCleanup : happening.isByCleanup) :
    happening.isActivity = false := by
  cases happening <;> first | rfl | cases byCleanup

theorem isIdle_of_isByCall {happening : Happening V} {id : Nat} (byCall : happening.isByCall id) :
    happening.isIdle = true := by
  cases happening <;> first | rfl | cases byCall

theorem elapsed_of_idle {log : List (Happening V)}
    (idle : ∀ happening ∈ log, happening.isIdle = true) : elapsed log = 0 := by
  induction log with
  | nil => rfl
  | cons first later inductionHypothesis =>
      rw [List.forall_mem_cons] at idle
      rw [elapsed, (inert_of_isIdle idle.1).2, inductionHypothesis idle.2]

end Happening

/-! ## Due times -/

section DueTimes

variable {V : Type} {limits : TimeoutKind → Option Span} {journal added : List (Record V)}

/-- The instant from which a deadline counts: the absolute one from the start of the
backend, the inactivity one from the last command that was processed since, if any. -/
def startOf? (journal : List (Record V)) : TimeoutKind → Option Nat
  | .absolute =>
      (journal.filter fun record => record.happening.isOpening).head?.map Record.instant
  | .inactivity =>
      (journal.filter fun record => record.happening.isActivity).getLast?.map Record.instant

/-- The millisecond at which a deadline of a configured length is due. -/
def due? (limits : TimeoutKind → Option Span) (journal : List (Record V))
    (kind : TimeoutKind) : Option Nat :=
  (limits kind).bind fun after =>
    (startOf? journal kind).map fun start => ({ now := start } : Clock).deadline after

/-- The deadline that is due first.  The absolute one goes first if both are due at once. -/
def firstDue? (limits : TimeoutKind → Option Span) (journal : List (Record V)) :
    Option (TimeoutKind × Nat) :=
  match due? limits journal .absolute, due? limits journal .inactivity with
  | some absolute, some inactivity =>
      some (if absolute ≤ inactivity then (.absolute, absolute) else (.inactivity, inactivity))
  | some absolute, none => some (.absolute, absolute)
  | none, some inactivity => some (.inactivity, inactivity)
  | none, none => none

theorem firstDue?_absolute {due : Nat} (absolute : due? limits journal .absolute = some due)
    (first : ∀ other, due? limits journal .inactivity = some other → due ≤ other) :
    firstDue? limits journal = some (.absolute, due) := by
  unfold firstDue?
  rw [absolute]
  cases inactivity : due? limits journal .inactivity with
  | none => rfl
  | some other => simp [first other inactivity]

theorem firstDue?_inactivity {due : Nat} (inactivity : due? limits journal .inactivity = some due)
    (first : ∀ other, due? limits journal .absolute = some other → due < other) :
    firstDue? limits journal = some (.inactivity, due) := by
  unfold firstDue?
  rw [inactivity]
  cases absolute : due? limits journal .absolute with
  | none => rfl
  | some other => simp [Nat.not_le.mpr (first other absolute)]

theorem configured_of_due? {kind : TimeoutKind} {due : Nat}
    (set : due? limits journal kind = some due) : ∃ after, limits kind = some after := by
  obtain ⟨after, configured, -⟩ := Option.bind_eq_some_iff.mp set
  exact ⟨after, configured⟩

theorem due?_of_start {kind : TimeoutKind} {start : Nat}
    (begun : startOf? journal kind = some start) :
    due? limits journal kind = (limits kind).map ({ now := start } : Clock).deadline := by
  unfold due?
  rw [begun]
  cases limits kind <;> rfl

theorem due?_congr {later : List (Record V)} {kind : TimeoutKind}
    (same : startOf? later kind = startOf? journal kind) :
    due? limits later kind = due? limits journal kind := by
  unfold due?
  rw [same]

/-- Records other than the start and the processed commands move no deadline. -/
theorem startOf?_append_inert (inert : ∀ record ∈ added, record.happening.isActivity = false)
    (kind : TimeoutKind) : startOf? (journal ++ added) kind = startOf? journal kind := by
  have idle : added.filter (fun record => record.happening.isActivity) = [] :=
    List.filter_eq_nil_iff.mpr fun record member => by simp [inert record member]
  have unopened : added.filter (fun record => record.happening.isOpening) = [] :=
    List.filter_eq_nil_iff.mpr fun record member => by
      simp [(Bool.or_eq_false_iff.mp (inert record member)).1]
  cases kind with
  | absolute => rw [startOf?, List.filter_append, unopened, List.append_nil, startOf?]
  | inactivity => rw [startOf?, List.filter_append, idle, List.append_nil, startOf?]

/-- The absolute deadline is not moved once the backend has started. -/
theorem startOf?_absolute_append
    (started : journal.any (fun record => record.happening.isOpening) = true) :
    startOf? (journal ++ added) .absolute = startOf? journal .absolute := by
  obtain ⟨record, member, opens⟩ := List.any_eq_true.mp started
  have present : record ∈ journal.filter fun record => record.happening.isOpening :=
    List.mem_filter.mpr ⟨member, opens⟩
  rw [startOf?, List.filter_append, List.head?_append_of_ne_nil _ (List.ne_nil_of_mem present),
    startOf?]

theorem startOf?_absolute_concat {record : Record V} (opening : record.happening.isOpening = true)
    (unstarted : journal.any (fun record => record.happening.isOpening) = false) :
    startOf? (journal ++ [record]) .absolute = some record.instant := by
  have silent : journal.filter (fun record => record.happening.isOpening) = [] :=
    List.filter_eq_nil_iff.mpr (List.any_eq_false.mp unstarted)
  simp [startOf?, silent, opening]

/-- The inactivity deadline counts from the last activity. -/
theorem startOf?_inactivity_concat {record : Record V}
    (activity : record.happening.isActivity = true) :
    startOf? (journal ++ [record]) .inactivity = some record.instant := by
  simp [startOf?, activity]

/-! ## Busy cleanups -/

/-- A cleanup started before an instant and was not over before it. -/
def Held (journal : List (Record V)) (instant : Nat) : Prop :=
  ∃ finish run, { instant := finish, happening := .cleaned run } ∈ journal
    ∧ instant ≤ finish ∧ finish < instant + (Happening.cleaned run).duration

theorem Held.mono {instant : Nat} {later : List (Record V)} (held : Held journal instant)
    (kept : journal ⊆ later) : Held later instant := by
  obtain ⟨finish, run, member, reached, started⟩ := held
  exact ⟨finish, run, kept member, reached, started⟩

/-- Only a cleanup can take the clock across an instant. -/
theorem held_sequence {start instant : Nat} {log : List (Happening V)} (early : start < instant)
    (late : instant ≤ start + Happening.elapsed log) :
    Held (Record.sequence start log) instant := by
  induction log generalizing start with
  | nil => exact absurd late (Nat.not_le.mpr early)
  | cons first rest inductionHypothesis =>
      have split : Happening.elapsed (first :: rest) = first.duration + Happening.elapsed rest :=
        rfl
      by_cases reached : instant ≤ start + first.duration
      · cases first with
        | cleaned run => exact ⟨_, run, List.mem_cons_self .., reached, by omega⟩
        | _ => exact absurd reached (Nat.not_le.mpr early)
      · have tail : Held (Record.sequence (start + first.duration) rest) instant :=
          inductionHypothesis (Nat.not_le.mp reached) (by omega)
        exact tail.mono (List.subset_cons_self ..)

theorem mem_of_mem_sequence {start : Nat} {log : List (Happening V)} {record : Record V}
    (member : record ∈ Record.sequence start log) : record.happening ∈ log := by
  rw [← Record.happening_sequence start log]
  exact List.mem_map_of_mem member

end DueTimes

namespace Session

variable {V : Type} {session before after : Session V}

/-! ## What a step means for the deadlines -/

/-- A step in which nothing happens that a deadline depends on. -/
def Idles (before after : Session V) : Prop :=
  ∃ log changes handles calls mailbox, (∀ happening ∈ log, happening.isIdle = true)
    ∧ Evolves log changes [] { before with handles, calls, mailbox } after

namespace Idles

theorem backend (idles : Idles before after) : after.backend = before.backend := by
  obtain ⟨log, changes, handles, calls, mailbox, -, growth⟩ := idles
  exact growth.backend

theorem limits (idles : Idles before after) : after.configured? = before.configured? := by
  obtain ⟨log, changes, handles, calls, mailbox, -, growth⟩ := idles
  exact funext (configured?_of_limits before ⟨growth.absolute, growth.inactivity⟩)

theorem journal (idles : Idles before after) : ∃ added, after.journal = before.journal ++ added
    ∧ ∀ record ∈ added, record.happening.isIdle = true := by
  obtain ⟨log, changes, handles, calls, mailbox, idle, growth⟩ := idles
  exact ⟨_, growth.journal, fun record member => idle _ (mem_of_mem_sequence member)⟩

theorem agenda (idles : Idles before after) : Agenda.Grows 0 before.agenda after.agenda := by
  obtain ⟨log, changes, handles, calls, mailbox, idle, growth⟩ := idles
  have instantaneous := growth.agenda
  rwa [Happening.elapsed_of_idle idle] at instantaneous

theorem outcome (idles : Idles before after) :
    after.control.outcome = before.control.outcome := by
  obtain ⟨log, changes, handles, calls, mailbox, idle, growth⟩ := idles
  have steady : ∀ happening ∈ log, happening.concludes = false := fun happening member =>
    Happening.concludes_of_isCalm (Bool.and_eq_true_iff.mp (idle happening member)).1
  rw [growth.control]
  exact foldl_steer_outcome _ steady

end Idles

/-- The steps of a scene by what they mean for its deadlines. -/
inductive Lapse (before after : Session V) : Prop where
  | idles (agenda : Agenda SceneTask) (idles : Idles { before with agenda } after)
  | opens (fresh : before.backend = .fresh) (opened : after = before.openUp)
  | serves {envelope : Envelope V} {rest : Mailbox (Envelope V) × Option Nat}
      (serving : before.isServing) (served : after = before.serveOne envelope rest)
  | ends {log : List (Happening V)} {heralds : List Event} {error : Option SceneError}
      (serving : before.isServing) (cause : EndCause before log heralds error after)
  | loses (lost : after = before.dropTasks)

theorem makeCall_idles (session : Session V) (request : Request V) :
    Idles session (session.makeCall request) :=
  ⟨_, _, session.handles, _, session.mailbox, List.forall_mem_nil _,
    session.makeCall_evolves request⟩

theorem resumeCall_idles (session : Session V) {id : Nat} {call : Call V}
    (found : session.calls[id]? = some call) : Idles session (session.resumeCall id) := by
  obtain ⟨log, changes, mailbox, turn, growth, -⟩ := session.resumeCall_turnsBy id call found
  exact ⟨log, changes, session.handles, session.calls, mailbox, fun happening member =>
    Happening.isIdle_of_isByCall (turn.isByCall happening member), growth⟩

theorem cancel_idles (session : Session V) {id : Nat} {call : Call V}
    (found : session.calls[id]? = some call) (unfinished : call.isUnfinished = true) :
    Idles session (session.cancel id) :=
  ⟨_, _, session.handles, session.calls, (session.mailbox.leave id).1,
    by simp [Happening.isIdle, Happening.isCalm, Happening.isOpening],
    (session.cancel_evolves found unfinished).1⟩

theorem Advance.lapse (step : Advance before after) : Lapse before after := by
  cases step with
  | @drifts agenda handles _ growth =>
      exact .idles agenda ⟨[], [], handles, before.calls, before.mailbox, by simp, growth⟩
  | makes request => exact .idles before.agenda (before.makeCall_idles request)
  | turns found => exact .idles before.agenda (before.resumeCall_idles found)
  | cancels found unfinished =>
      exact .idles before.agenda (before.cancel_idles found unfinished)
  | opens fresh => exact .opens fresh rfl
  | processes serving => exact .serves serving rfl
  | ends serving cause => exact .ends serving cause
  | loses => exact .loses rfl

/-! ## The armed deadlines -/

/-- The millisecond at which a deadline is due that the backend waits for. -/
def armed? (session : Session V) (kind : TimeoutKind) : Option Nat :=
  match session.backend, kind with
  | .serving absolute _, .absolute => absolute
  | .serving _ inactivity, .inactivity => inactivity
  | _, _ => none

theorem armed?_of_not_serving (idle : ¬session.isServing) (kind : TimeoutKind) :
    session.armed? kind = none := by
  unfold armed?
  split
  case h_1 absolute inactivity serving => exact absurd ⟨absolute, inactivity, serving⟩ idle
  case h_2 absolute inactivity serving => exact absurd ⟨absolute, inactivity, serving⟩ idle
  case h_3 => rfl

theorem isServing_of_armed? {kind : TimeoutKind} {due : Nat}
    (armed : session.armed? kind = some due) : session.isServing := by
  refine Classical.byContradiction fun idle => ?_
  rw [armed?_of_not_serving idle] at armed
  cases armed

theorem armed?_congr (backend : after.backend = before.backend) : after.armed? = before.armed? := by
  funext kind
  unfold armed?
  rw [backend]

/-- Serving an envelope sets the inactivity deadline anew, from the instant at which the
command was processed, and leaves the absolute one alone. -/
theorem armed?_serveOne (serving : session.isServing) (envelope : Envelope V)
    (rest : Mailbox (Envelope V) × Option Nat) :
    (session.serveOne envelope rest).armed? .absolute = session.armed? .absolute
      ∧ (session.serveOne envelope rest).armed? .inactivity
        = (session.serveOne envelope rest).inactivity.map
          (session.serveOne envelope rest).clock.deadline := by
  obtain ⟨absolute, inactivity, backend⟩ := serving
  unfold armed?
  rw [serveOne_eq backend, backend]
  exact ⟨rfl, rfl⟩

/-- Only the cleanup of a command takes time. -/
theorem now_serveOne (serving : session.isServing) (envelope : Envelope V)
    (rest : Mailbox (Envelope V) × Option Nat) :
    (session.serveOne envelope rest).clock.now
      = session.clock.now
        + Happening.elapsed (session.effect envelope.caller envelope.command).log := by
  obtain ⟨backend, -, growth⟩ := serveOne_evolves serving envelope rest
  have now := growth.now
  rwa [serveLog, Happening.elapsed_append] at now

/-- What serving an envelope adds to the journal ends with the processed command. -/
theorem journal_serveOne (serving : session.isServing) (envelope : Envelope V)
    (rest : Mailbox (Envelope V) × Option Nat) :
    (session.serveOne envelope rest).journal
      = session.journal
        ++ Record.sequence session.clock.now (session.effect envelope.caller envelope.command).log
        ++ [{ instant := (session.serveOne envelope rest).clock.now
              happening := .processed (session.entryFor envelope) }] := by
  obtain ⟨backend, -, growth⟩ := serveOne_evolves serving envelope rest
  rw [growth.journal, now_serveOne serving, serveLog, Record.sequence_append, List.append_assoc]
  rfl

theorem inert_of_mem_effect_log {start : Nat} {caller : Nat} {command : Command V} :
    ∀ record ∈ Record.sequence start (session.effect caller command).log,
      record.happening.isActivity = false :=
  fun _ member =>
    Happening.inert_of_isByCleanup (isByCleanup_of_mem_effect_log (mem_of_mem_sequence member))

theorem limits_serveOne (serving : session.isServing) (envelope : Envelope V)
    (rest : Mailbox (Envelope V) × Option Nat) :
    (session.serveOne envelope rest).configured? = session.configured? := by
  obtain ⟨backend, -, growth⟩ := serveOne_evolves serving envelope rest
  exact funext (configured?_of_limits session ⟨growth.absolute, growth.inactivity⟩)

theorem any_isOpening_journal (session : Session V) :
    session.journal.any (fun record => record.happening.isOpening)
      = session.happenings.any Happening.isOpening := by
  rw [happenings, List.any_map]
  rfl

/-- The backend starts with the deadlines that its journal gives. -/
theorem armed?_openUp (unstarted : session.happenings.any Happening.isOpening = false)
    (kind : TimeoutKind) :
    session.openUp.armed? kind
      = due? session.openUp.configured? session.openUp.journal kind := by
  rw [← any_isOpening_journal] at unstarted
  have limits : session.openUp.configured? = session.configured? := rfl
  have journal : session.openUp.journal
      = session.journal ++ [{ instant := session.clock.now, happening := .opened }] := rfl
  rw [limits, journal]
  cases kind with
  | absolute =>
      rw [due?_of_start (startOf?_absolute_concat rfl unstarted)]
      rfl
  | inactivity =>
      rw [due?_of_start (startOf?_inactivity_concat rfl)]
      rfl

/-- A command moves the deadlines as its journal does: the absolute one not at all, the
other one to count from the command. -/
theorem armed?_serveOne_eq_due? (serving : session.isServing)
    (started : session.happenings.any Happening.isOpening = true)
    (armed : ∀ kind, session.armed? kind = due? session.configured? session.journal kind)
    (envelope : Envelope V) (rest : Mailbox (Envelope V) × Option Nat) (kind : TimeoutKind) :
    (session.serveOne envelope rest).armed? kind
      = due? (session.serveOne envelope rest).configured?
        (session.serveOne envelope rest).journal kind := by
  rw [← any_isOpening_journal] at started
  have limits := limits_serveOne serving envelope rest
  obtain ⟨kept, moved⟩ := armed?_serveOne serving envelope rest
  rw [limits, journal_serveOne serving]
  cases kind with
  | absolute =>
      rw [kept, armed, List.append_assoc, due?_congr (startOf?_absolute_append started)]
  | inactivity =>
      rw [moved, due?_of_start (startOf?_inactivity_concat rfl)]
      exact congrArg (Option.map _) (congrFun limits .inactivity)

/-- A serving backend waits for the deadlines that its journal gives: the absolute one
is never moved, and the other one by the processed commands alone. -/
theorem Passed.armed (passed : Passed session) (serving : session.isServing)
    (kind : TimeoutKind) :
    session.armed? kind = due? session.configured? session.journal kind := by
  induction passed generalizing kind with
  | initial initial =>
      obtain ⟨absolute, inactivity, backend⟩ := serving
      rw [initial.backend] at backend
      cases backend
  | @advance before after passed step inductionHypothesis =>
      cases step.lapse with
      | idles agenda idles =>
          obtain ⟨added, journal, idle⟩ := idles.journal
          have ran : before.isServing := by
            obtain ⟨absolute, inactivity, backend⟩ := serving
            exact ⟨absolute, inactivity, idles.backend.symm.trans backend⟩
          have inert : ∀ record ∈ added, record.happening.isActivity = false :=
            fun record member => (Happening.inert_of_isIdle (idle record member)).1
          rw [journal, idles.limits, due?_congr (startOf?_append_inert inert kind),
            armed?_congr idles.backend]
          exact inductionHypothesis ran kind
      | opens fresh opened =>
          subst opened
          exact armed?_openUp (passed.accounted.fresh fresh).1 kind
      | @serves envelope rest ran served =>
          subst served
          exact armed?_serveOne_eq_due? ran (passed.framed.opened (.inl ran))
            (inductionHypothesis ran) envelope rest kind
      | ends ran cause => exact absurd serving (not_serving_of_returned cause.backend)
      | loses lost =>
          subst lost
          have gone := serving.runs
          rw [backendRuns_dropTasks] at gone
          cases gone

/-- The deadline that ends the scene was armed and is due.  The inactivity deadline ends
it only if the absolute one is not due. -/
theorem dueDeadline?_some {kind : TimeoutKind} {after : Span}
    (fires : session.dueDeadline? = some (kind, after)) :
    ∃ due, session.armed? kind = some due ∧ due ≤ session.clock.noticed
      ∧ (kind = .inactivity →
        ∀ other, session.armed? .absolute = some other → session.clock.noticed < other) := by
  unfold dueDeadline? at fires
  split at fires
  case h_2 => cases fires
  case h_1 absolute inactivity serving =>
    have armed : session.armed? .absolute = absolute ∧ session.armed? .inactivity = inactivity := by
      unfold armed?
      rw [serving]
      exact ⟨rfl, rfl⟩
    simp only [Option.any_eq_true, Clock.isDue, decide_eq_true_eq] at fires
    split at fires
    case isTrue reached =>
      obtain ⟨due, set, reached⟩ := reached
      obtain ⟨after, -, same⟩ := Option.map_eq_some_iff.mp fires
      cases same
      exact ⟨due, armed.1.trans set, reached, nofun⟩
    case isFalse early =>
      split at fires
      case isFalse => cases fires
      case isTrue reached =>
        obtain ⟨due, set, reached⟩ := reached
        obtain ⟨after, -, same⟩ := Option.map_eq_some_iff.mp fires
        cases same
        refine ⟨due, armed.2.trans set, reached, fun _ other waits => ?_⟩
        exact Nat.not_le.mp fun lapsed => early ⟨other, armed.1.symm.trans waits, lapsed⟩

theorem Passed.configured (passed : Passed session) {kind : TimeoutKind} {due : Nat}
    (armed : session.armed? kind = some due) : ∃ after, session.configured? kind = some after :=
  configured_of_due? ((passed.armed (isServing_of_armed? armed) kind).symm.trans armed)

/-- Unless a deadline ends the scene, none that is armed is due. -/
theorem Passed.undue (passed : Passed session) (undue : session.dueDeadline? = none)
    {kind : TimeoutKind} {due : Nat} (armed : session.armed? kind = some due) :
    session.clock.noticed < due := by
  refine Nat.not_le.mp fun lapsed => ?_
  obtain ⟨after, configured⟩ := passed.configured armed
  have absolutely (other : Nat) (set : session.armed? .absolute = some other) :
      ∃ longest, session.absolute = some longest :=
    passed.configured set
  unfold armed? at armed absolutely
  unfold dueDeadline? at undue
  cases backend : session.backend with
  | serving absolute inactivity =>
      rw [backend] at undue armed absolutely
      dsimp only at undue absolutely
      split at undue
      case isTrue reached =>
        obtain ⟨other, set, -⟩ := (Option.any_eq_true _ _).mp reached
        obtain ⟨longest, present⟩ := absolutely other set
        rw [present] at undue
        cases undue
      case isFalse early =>
        cases kind with
        | absolute =>
            obtain rfl : absolute = some due := armed
            exact early (by simpa [Clock.isDue] using lapsed)
        | inactivity =>
            obtain rfl : inactivity = some due := armed
            rw [show session.inactivity = some after from configured] at undue
            simp [Clock.isDue, lapsed] at undue
  | _ =>
      rw [backend] at armed
      cases armed

/-! ## Why a scene ends -/

theorem foldl_steer_asked (log : List (Happening V)) (control : Control SceneError) :
    (log.foldl steer control).stopRequested
      = (control.stopRequested || log.any Happening.asksToStop) := by
  induction log generalizing control with
  | nil => simp
  | cons first rest inductionHypothesis =>
      rw [List.foldl_cons, inductionHypothesis]
      cases first <;> simp [steer, Happening.asksToStop, Control.requestStop, Control.kill,
        Control.conclude]

theorem Steered.asked (steered : session.Steered) (runs : session.backendRuns = true) :
    session.control.stopRequested = session.happenings.any Happening.asksToStop := by
  rw [steered.control_of_runs runs, foldl_steer_asked]
  rfl

/-- A backend returns only if it was asked to stop, a deadline fired or no handle was
left. -/
theorem Passed.ended_for (passed : Passed session) (returned : session.backend = .returned) :
    session.happenings.any Happening.asksToStop = true
      ∨ ∃ deadline, .concluded deadline ∈ session.happenings := by
  induction passed with
  | initial initial =>
      rw [initial.backend] at returned
      cases returned
  | @advance before after passed step inductionHypothesis =>
      have kept {log : List (Happening V)}
          (happenings : after.happenings = before.happenings ++ log)
          (earlier : before.happenings.any Happening.asksToStop = true
            ∨ ∃ deadline, .concluded deadline ∈ before.happenings) :
          after.happenings.any Happening.asksToStop = true
            ∨ ∃ deadline, .concluded deadline ∈ after.happenings := by
        rw [happenings, List.any_append]
        rcases earlier with asked | ⟨deadline, member⟩
        · exact .inl (by rw [asked]; rfl)
        · exact .inr ⟨deadline, List.mem_append_left _ member⟩
      cases step.course with
      | calm calm happenings control visiting limits props subscriptions backend =>
          rcases backend with same | ⟨-, runs⟩
          · exact kept happenings (inductionHypothesis (same ▸ returned))
          · simp [backendRuns, returned] at runs
      | @serves envelope rest serving unstopped taken served =>
          subst served
          exact absurd (serveOne_isServing serving envelope rest)
            (not_serving_of_returned returned)
      | @ends log heralds error serving cause =>
          have happenings := cause.happenings
          cases cause with
          | stopped stopped =>
              rw [passed.steered.asked serving.runs] at stopped
              exact kept happenings (.inl stopped)
          | @timedOut kind after unstopped due =>
              exact .inr ⟨some (kind, after), by rw [happenings]; simp [endLog]⟩
          | abandoned unstopped undue idle unheld =>
              exact .inr ⟨none, by rw [happenings]; simp [endLog]⟩
      | loses lost =>
          subst lost
          exact inductionHypothesis (backend_dropTasks_returned.mp returned)

/-! ## After a deadline has fired -/

/-- What becomes of a scene once a deadline has fired at an instant: the cleanups of the
teardown are run, the timeout is stored as the terminal result, and nothing more happens
to the backend. -/
structure TimedOut (session : Session V) (instant : Nat) (error : SceneError)
    (late : List (Record V)) : Prop where
  returned : session.backend = .returned
  outcome : session.control.outcome = some (.error error)
  late : ∃ torn rest, late = Record.sequence instant (torn ++ [.ended (.error error)]) ++ rest
    ∧ (∀ happening ∈ torn, happening.isByCleanup)
    ∧ ∀ record ∈ rest, record.happening.isIdle = true

/-- No abort is recorded as terminal while nobody has asked the backend to stop. -/
theorem Steered.unkilled (steered : session.Steered) (runs : session.backendRuns = true)
    (unstopped : session.control.stopRequested = false) : session.control.killed = none := by
  have unasked := unstopped
  rw [steered.asked runs, List.any_eq_false] at unasked
  rw [steered.control_of_runs runs, killed_eq_firstAbort rfl rfl rfl, Option.map_eq_none_iff]
  refine List.findSome?_eq_none_iff.mpr fun happening member => ?_
  have calm := unasked happening ((List.takeWhile_prefix _).subset member)
  cases happening <;> first | rfl | exact absurd rfl calm

/-- The timeout is the terminal result, as an abort in the teardown comes too late. -/
theorem resultAfter_timedOut (steered : session.Steered) (serving : session.isServing)
    (unstopped : session.control.stopRequested = false) (deadline : TimeoutKind × Span)
    (error : SceneError) :
    session.resultAfter [.concluded (some deadline)] (some error) = .error error := by
  have unkilled := steered.unkilled serving.runs unstopped
  have concluding : session.control.conclude.killed = none := unkilled
  have still : (session.teardownLog.foldl steer session.control.conclude).killed = none :=
    killed_of_concluded concluding (.inl rfl) session.teardownLog
  unfold resultAfter Control.resolve
  rw [List.cons_append, List.foldl_cons, List.nil_append, show steer session.control
    (.concluded (some deadline) : Happening V) = session.control.conclude from rfl, still]
  rfl

/-- The records of an end tell of a deadline only if it is the cause, and then at their
very beginning. -/
theorem EndCause.fired {log : List (Happening V)} {heralds : List Event}
    {error : Option SceneError} (cause : EndCause before log heralds error after)
    {start instant : Nat} {kind : TimeoutKind} {length : Span} {early late : List (Record V)}
    (split : Record.sequence start (before.endLog log error)
      = early ++ { instant, happening := .concluded (some (kind, length)) } :: late) :
    early = [] ∧ before.control.stopRequested = false
      ∧ before.dueDeadline? = some (kind, length)
      ∧ log = [.concluded (some (kind, length))] ∧ error = some (.timeout kind length)
      ∧ instant = start
      ∧ late = Record.sequence start
          (before.teardownLog ++ [.ended (before.resultAfter log error)]) := by
  have torn {start : Nat} {result : Except SceneError Unit} {rest : List (Record V)}
      (later : Record.sequence start (before.teardownLog ++ [.ended result])
        = rest ++ { instant, happening := .concluded (some (kind, length)) } :: late) : False := by
    have member : { instant, happening := .concluded (some (kind, length)) }
        ∈ rest ++ { instant, happening := .concluded (some (kind, length)) } :: late :=
      List.mem_append_cons_self
    rw [← later] at member
    rcases List.mem_append.mp (mem_of_mem_sequence member) with cleaned | ended
    · cases isByCleanup_of_mem_teardownLog cleaned
    · cases List.mem_singleton.mp ended
  unfold endLog at split
  cases cause with
  | stopped => exact (torn split).elim
  | abandoned =>
      cases early with
      | nil => cases (List.cons_eq_cons.mp split).1
      | cons first rest => exact (torn (List.cons_eq_cons.mp split).2).elim
  | timedOut unstopped due =>
      cases early with
      | nil =>
          obtain ⟨head, later⟩ := List.cons_eq_cons.mp split
          cases head
          exact ⟨rfl, unstopped, due, rfl, rfl, rfl, later.symm⟩
      | cons first rest => exact (torn (List.cons_eq_cons.mp split).2).elim

/-- The end that a deadline brings. -/
theorem EndCause.lapsed {log : List (Happening V)} {heralds : List Event}
    {error : Option SceneError} (cause : EndCause before log heralds error after)
    (steered : before.Steered) (serving : before.isServing) {start instant : Nat}
    {kind : TimeoutKind} {length : Span} {early late : List (Record V)}
    (split : Record.sequence start (before.endLog log error)
      = early ++ { instant, happening := .concluded (some (kind, length)) } :: late) :
    after.TimedOut instant (.timeout kind length) late := by
  have outcome := cause.outcome
  obtain ⟨rfl, unstopped, -, rfl, rfl, rfl, rfl⟩ := cause.fired split
  have own := resultAfter_timedOut steered serving unstopped (kind, length)
    (.timeout kind length)
  constructor
  case returned => exact cause.backend
  case outcome => exact outcome.trans (congrArg some own)
  case late =>
    refine ⟨before.teardownLog, [], ?_, fun _ => isByCleanup_of_mem_teardownLog,
      List.forall_mem_nil _⟩
    rw [List.append_nil, own]

/-- What a step adds in which nothing happens to the backend changes nothing any more. -/
theorem TimedOut.append {instant : Nat} {error : SceneError} {late added : List (Record V)}
    (timedOut : before.TimedOut instant error late)
    (backend : after.backend = before.backend)
    (outcome : after.control.outcome = before.control.outcome)
    (idle : ∀ record ∈ added, record.happening.isIdle = true) :
    after.TimedOut instant error (late ++ added) := by
  obtain ⟨torn, rest, rfl, cleaned, quiet⟩ := timedOut.late
  constructor
  case returned => exact backend.trans timedOut.returned
  case outcome => exact outcome.trans timedOut.outcome
  case late =>
    refine ⟨torn, rest ++ added, List.append_assoc .., cleaned, ?_⟩
    exact List.forall_mem_append.mpr ⟨quiet, idle⟩

/-- A deadline that has fired gives the terminal result, and nothing follows but the
teardown. -/
theorem Passed.timedOut (passed : Passed session) {early late : List (Record V)} {instant : Nat}
    {kind : TimeoutKind} {after : Span}
    (fired : session.journal
      = early ++ { instant, happening := .concluded (some (kind, after)) } :: late) :
    session.TimedOut instant (.timeout kind after) late := by
  induction passed generalizing late with
  | initial initial =>
      rw [initial.journal] at fired
      cases early <;> cases fired
  | @advance before session passed step inductionHypothesis =>
      -- The record is new only if it is among those that the step adds.
      have old {added : List (Record V)} (journal : session.journal = before.journal ++ added)
          (unfired : ∀ record ∈ added, record.happening ≠ .concluded (some (kind, after))) :
          ∃ middle, late = middle ++ added
            ∧ before.TimedOut instant (.timeout kind after) middle := by
        rw [journal] at fired
        rcases place_of_append fired with ⟨middle, earlier, rfl⟩ | ⟨middle, -, new⟩
        · exact ⟨middle, rfl, inductionHypothesis earlier⟩
        · have member : { instant, happening := .concluded (some (kind, after)) } ∈ added := by
            rw [new]
            exact List.mem_append_cons_self
          exact absurd rfl (unfired _ member)
      cases step.lapse with
      | idles agenda idles =>
          obtain ⟨added, journal, idle⟩ := idles.journal
          obtain ⟨middle, rfl, timedOut⟩ := old journal fun record member concluded => by
            have quiet := idle record member
            rw [concluded] at quiet
            cases quiet
          exact timedOut.append idles.backend idles.outcome idle
      | opens fresh opened =>
          subst opened
          obtain ⟨middle, -, timedOut⟩ :=
            old before.openUp_evolves.journal (by simp [Record.sequence])
          cases fresh.symm.trans timedOut.returned
      | @serves envelope rest serving served =>
          subst served
          obtain ⟨backend, -, growth⟩ := serveOne_evolves serving envelope rest
          obtain ⟨middle, -, timedOut⟩ := old growth.journal fun record member concluded => by
            have steady := before.steady_serveLog envelope _ (mem_of_mem_sequence member)
            rw [concluded] at steady
            cases steady
          exact absurd serving (not_serving_of_returned timedOut.returned)
      | ends serving cause =>
          have journal : session.journal = before.journal ++ _ := cause.evolves.journal
          rw [journal] at fired
          rcases place_of_append fired with ⟨middle, earlier, -⟩ | ⟨middle, -, new⟩
          · exact absurd serving (not_serving_of_returned (inductionHypothesis earlier).returned)
          · exact cause.lapsed passed.steered serving new
      | loses lost =>
          subst lost
          obtain ⟨middle, rfl, timedOut⟩ := old (List.append_nil _).symm (by simp)
          have gone : before.dropTasks.backend = before.backend :=
            backend_dropTasks_of_halted (by simp [backendRuns, timedOut.returned])
          exact timedOut.append gone rfl (List.forall_mem_nil _)

end Session

end BoundedScene
