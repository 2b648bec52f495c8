import BoundedScene.Proofs.Deadlines

/-!
Contract: no step of the backend misses a deadline.

Owns:
- `OnTime`, the instants at which commands are processed and deadlines fire;
- `OnCourse`, that everything in the journal was on time and that no armed deadline has
  been missed;
- that the steps of the backend, and all steps that take no time, keep a scene on course.

The one way to miss an instant is to be busy with a cleanup across it.

Main statements: `OnCourse.serve` and `OnCourse.idles`.

Does not own: when the backend has its turns.
-/

namespace BoundedScene

namespace Settings

/-- The deadlines of a scene, with their configured lengths. -/
def limits (settings : Settings) : TimeoutKind → Option Span
  | .absolute => settings.absoluteTimeout
  | .inactivity => settings.inactivityTimeout

theorem limits_positive {settings : Settings} {kind : TimeoutKind} {after : Span}
    (configured : settings.limits kind = some after) : 0 < after.nanoseconds := by
  have enabled {span : Span} (enabled : Settings.enabled span = some after) :
      0 < after.nanoseconds := by
    unfold Settings.enabled at enabled
    split at enabled
    · cases enabled
    case isFalse nonzero =>
      cases enabled
      exact Nat.pos_of_ne_zero (by simpa [Span.isZero] using nonzero)
  cases kind with
  | absolute => exact enabled configured
  | inactivity => exact enabled configured

end Settings

/-! ## Records on time -/

namespace Happening

variable {V : Type}

/-- Whether it matters to the deadlines at which instant it happens. -/
def isDated : Happening V → Bool
  | .processed _ => true
  | .concluded (some _) => true
  | _ => false

theorem undated_of_isIdle {happening : Happening V} (idle : happening.isIdle = true) :
    happening.isDated = false := by
  cases happening <;> first | rfl | cases idle

theorem undated_of_isByCleanup {happening : Happening V} (byCleanup : happening.isByCleanup) :
    happening.isDated = false := by
  cases happening <;> first | rfl | cases byCleanup

end Happening

section OnTime

variable {V : Type} {limits : TimeoutKind → Option Span}

/-- A command is processed before every deadline, and a deadline that fires is the first
one and does so at its very instant, unless a cleanup kept the backend busy across it.
Only the absolute deadline can be overrun for good: a command whose cleanup overruns the
other one moves it. -/
def OnTime (limits : TimeoutKind → Option Span) (early : List (Record V)) (record : Record V) :
    Prop :=
  match record.happening with
  | .processed _ => ∀ kind due, due? limits early kind = some due →
      record.instant < Clock.instantOf due ∨ Held early (Clock.instantOf due)
  | .concluded (some (kind, after)) => limits kind = some after
      ∧ ∃ due, firstDue? limits early = some (kind, due)
        ∧ (record.instant = Clock.instantOf due
          ∨ kind = .absolute ∧ Clock.instantOf due ≤ record.instant
            ∧ Held early (Clock.instantOf due))
  | _ => True

/-- Every record of a journal is on time. -/
def AllOnTime (limits : TimeoutKind → Option Span) (journal : List (Record V)) : Prop :=
  ∀ early record late, journal = early ++ record :: late → OnTime limits early record

theorem onTime_of_undated {early : List (Record V)} {record : Record V}
    (undated : record.happening.isDated = false) : OnTime limits early record := by
  unfold OnTime
  split
  case h_1 processed =>
    rw [processed] at undated
    cases undated
  case h_2 concluded =>
    rw [concluded] at undated
    cases undated
  case h_3 => trivial

theorem AllOnTime.append {journal added : List (Record V)} (old : AllOnTime limits journal)
    (new : ∀ middle record late, added = middle ++ record :: late →
      OnTime limits (journal ++ middle) record) : AllOnTime limits (journal ++ added) := by
  intro early record late split
  rcases place_of_append split with ⟨middle, earlier, -⟩ | ⟨middle, rfl, later⟩
  · exact old early record middle earlier
  · exact new middle record late later

theorem AllOnTime.append_undated {journal added : List (Record V)} (old : AllOnTime limits journal)
    (undated : ∀ record ∈ added, record.happening.isDated = false) :
    AllOnTime limits (journal ++ added) := by
  refine old.append fun middle record late split => onTime_of_undated (undated record ?_)
  rw [split]
  exact List.mem_append_cons_self

theorem AllOnTime.concat {journal : List (Record V)} {record : Record V}
    (old : AllOnTime limits journal) (new : OnTime limits journal record) :
    AllOnTime limits (journal ++ [record]) := by
  refine old.append fun middle other late split => ?_
  cases middle with
  | nil =>
      cases split
      rw [List.append_nil]
      exact new
  | cons first rest =>
      have impossible := (List.cons_eq_cons.mp split).2
      simp at impossible

end OnTime

namespace Session

variable {V : Type} {session before after next : Session V} {limits : TimeoutKind → Option Span}

/-! ## No deadline has been missed -/

/-- A deadline is ahead of the clock; or it is due at this very instant and noticed; or it
is the absolute one and a cleanup kept the backend busy across it. -/
def Ahead (journal : List (Record V)) (clock : Clock) (kind : TimeoutKind) (due : Nat) : Prop :=
  clock.now < Clock.instantOf due
    ∨ clock.now = Clock.instantOf due ∧ due ≤ clock.noticed
    ∨ kind = .absolute ∧ Held journal (Clock.instantOf due)

/-- A scene all of whose records are on time and that has missed no armed deadline. -/
structure OnCourse (limits : TimeoutKind → Option Span) (session : Session V) : Prop where
  passed : Passed session
  configured : session.configured? = limits
  positive : ∀ kind after, limits kind = some after → 0 < after.nanoseconds
  noticed : Clock.instantOf session.clock.noticed ≤ session.clock.now
  ahead : ∀ kind due, session.armed? kind = some due →
    Ahead session.journal session.clock kind due
  onTime : AllOnTime limits session.journal

/-- The backend has something to see to: its first turn, or a deadline. -/
def Pressed (session : Session V) : Prop :=
  session.backend = .fresh
    ∨ ∃ kind due, session.armed? kind = some due ∧ due ≤ session.clock.noticed

theorem not_pressed_of_halted (halted : session.backendRuns = false) : ¬session.Pressed := by
  rintro (fresh | ⟨kind, due, armed, -⟩)
  · simp [backendRuns, fresh] at halted
  · rw [(isServing_of_armed? armed).runs] at halted
    cases halted

namespace OnCourse

/-- Another agenda whose clock misses no deadline. -/
theorem withAgenda (onCourse : OnCourse limits session) (agenda : Agenda SceneTask)
    (noticed : Clock.instantOf agenda.clock.noticed ≤ agenda.clock.now)
    (ahead : ∀ kind due, session.armed? kind = some due →
      Ahead session.journal agenda.clock kind due) :
    OnCourse limits { session with agenda } where
  passed := onCourse.passed.advance (.drifts (Evolves.refl _))
  configured := onCourse.configured
  positive := onCourse.positive
  noticed := noticed
  ahead := ahead
  onTime := onCourse.onTime

theorem withReady (onCourse : OnCourse limits session) (ready : List SceneTask) :
    OnCourse limits { session with agenda := { session.agenda with ready } } :=
  onCourse.withAgenda _ onCourse.noticed onCourse.ahead

theorem idles (onCourse : OnCourse limits before) (idles : Idles before after)
    (passed : Passed after) : OnCourse limits after := by
  obtain ⟨added, journal, idle⟩ := idles.journal
  have now : after.clock.now = before.clock.now := idles.agenda.now
  have noticed : after.clock.noticed = before.clock.noticed := idles.agenda.noticed
  constructor
  case passed => exact passed
  case configured => exact idles.limits.trans onCourse.configured
  case positive => exact onCourse.positive
  case noticed =>
    rw [now, noticed]
    exact onCourse.noticed
  case ahead =>
    intro kind due armed
    rw [armed?_congr idles.backend] at armed
    unfold Ahead
    rw [now, noticed, journal]
    exact (onCourse.ahead kind due armed).imp_right
      (Or.imp_right fun held => ⟨held.1, held.2.mono (List.subset_append_left ..)⟩)
  case onTime =>
    rw [journal]
    exact onCourse.onTime.append_undated fun record member =>
      Happening.undated_of_isIdle (idle record member)

/-! ## The turn of the backend -/

/-- A deadline that ends the scene is the first one, and it fires at its instant. -/
theorem fires (onCourse : OnCourse limits session) {kind : TimeoutKind} {after : Span}
    (due : session.dueDeadline? = some (kind, after)) (early : List (Record V))
    (same : early = session.journal) :
    OnTime limits early
      { instant := session.clock.now, happening := .concluded (some (kind, after)) } := by
  have configured := configured?_of_due due
  obtain ⟨due, armed, lapsed, second⟩ := dueDeadline?_some due
  have serving := isServing_of_armed? armed
  have journal := onCourse.passed.armed serving
  rw [onCourse.configured] at configured journal
  have reached : Clock.instantOf due ≤ session.clock.now :=
    Nat.le_trans (Clock.instantOf_le_instantOf.mpr lapsed) onCourse.noticed
  subst same
  refine ⟨configured, due, ?_, ?_⟩
  · cases kind with
    | absolute =>
        refine firstDue?_absolute ((journal .absolute).symm.trans armed) fun other set => ?_
        have waits := (journal .inactivity).trans set
        rcases onCourse.ahead .inactivity other waits with early | ⟨now, -⟩ | ⟨absolute, -⟩
        · exact Nat.le_of_lt (Clock.instantOf_lt_instantOf.mp (Nat.lt_of_le_of_lt reached early))
        · rw [now] at reached
          exact Clock.instantOf_le_instantOf.mp reached
        · cases absolute
    | inactivity =>
        refine firstDue?_inactivity ((journal .inactivity).symm.trans armed) fun other set => ?_
        exact Nat.lt_of_le_of_lt lapsed (second rfl other ((journal .absolute).trans set))
  · rcases onCourse.ahead kind due armed with early | ⟨now, -⟩ | ⟨absolute, held⟩
    · exact absurd early (Nat.not_lt.mpr reached)
    · exact .inl now
    · exact .inr ⟨absolute, reached, held⟩

theorem ends (onCourse : OnCourse limits before) (serving : before.isServing)
    {log : List (Happening V)} {heralds : List Event} {error : Option SceneError}
    (cause : EndCause before log heralds error after) : OnCourse limits after := by
  have growth := cause.evolves
  have journal : after.journal
      = before.journal ++ Record.sequence before.clock.now (before.endLog log error) :=
    growth.journal
  have stopped : ¬after.isServing := not_serving_of_returned cause.backend
  constructor
  case passed => exact onCourse.passed.advance (.ends serving cause)
  case configured =>
    rw [← onCourse.configured]
    exact funext (configured?_of_limits before ⟨growth.absolute, growth.inactivity⟩)
  case positive => exact onCourse.positive
  case noticed =>
    rw [show after.clock.noticed = before.clock.noticed from growth.agenda.noticed,
      show after.clock.now = before.clock.now + _ from growth.agenda.now]
    exact Nat.le_trans onCourse.noticed (Nat.le_add_right ..)
  case ahead =>
    intro kind due armed
    exact absurd (isServing_of_armed? armed) stopped
  case onTime =>
    rw [journal]
    refine onCourse.onTime.append fun middle record late split => ?_
    have listed : record ∈ Record.sequence before.clock.now (before.endLog log error) := by
      rw [split]
      exact List.mem_append_cons_self
    have member := mem_of_mem_sequence listed
    obtain ⟨instant, happening⟩ := record
    unfold OnTime
    split
    case h_1 entry processed =>
      have none := List.filterMap_eq_nil_iff.mp cause.processed_endLog _ member
      rw [processed] at none
      cases none
    case h_2 kind length concluded =>
      obtain rfl : happening = .concluded (some (kind, length)) := concluded
      obtain ⟨rfl, -, due, -, -, rfl, -⟩ := cause.fired split
      exact onCourse.fires due _ (List.append_nil _)
    case h_3 => trivial

theorem opens (onCourse : OnCourse limits before) (fresh : before.backend = .fresh) :
    OnCourse limits before.openUp := by
  have growth := before.openUp_evolves
  have now : before.openUp.clock.now = before.clock.now := growth.agenda.now
  have noticed : before.openUp.clock.noticed = before.clock.noticed := growth.agenda.noticed
  constructor
  case passed => exact onCourse.passed.advance (.opens fresh)
  case configured => exact onCourse.configured
  case positive => exact onCourse.positive
  case noticed =>
    rw [now, noticed]
    exact onCourse.noticed
  case ahead =>
    intro kind due armed
    have set : (before.configured? kind).map before.clock.deadline = some due := by
      cases kind <;> exact armed
    obtain ⟨after, configured, rfl⟩ := Option.map_eq_some_iff.mp set
    rw [onCourse.configured] at configured
    refine .inl ?_
    rw [now]
    exact before.clock.lt_deadline (onCourse.positive kind after configured)
  case onTime =>
    exact onCourse.onTime.append_undated fun record member => by
      rw [List.mem_singleton.mp member]
      rfl

/-- Only the cleanup of a command takes time, so that it alone can keep the backend busy
across a deadline. -/
theorem crossed (onCourse : OnCourse limits before) (serving : before.isServing)
    (undue : before.dueDeadline? = none) (envelope : Envelope V)
    (rest : Mailbox (Envelope V) × Option Nat) {kind : TimeoutKind} {due : Nat}
    (armed : before.armed? kind = some due) :
    (before.serveOne envelope rest).clock.now < Clock.instantOf due
      ∨ Held (before.journal ++ Record.sequence before.clock.now
          (before.effect envelope.caller envelope.command).log) (Clock.instantOf due) := by
  rcases onCourse.ahead kind due armed with early | ⟨-, lapsed⟩ | ⟨-, held⟩
  · by_cases reached : (before.serveOne envelope rest).clock.now < Clock.instantOf due
    · exact .inl reached
    · rw [now_serveOne serving] at reached
      have held := held_sequence early (Nat.not_lt.mp reached)
      exact .inr (held.mono (List.subset_append_right ..))
  · exact absurd lapsed (Nat.not_le.mpr (onCourse.passed.undue undue armed))
  · exact .inr (held.mono (List.subset_append_left ..))

/-- A command is taken only while every deadline is ahead. -/
theorem serves (onCourse : OnCourse limits before) (serving : before.isServing)
    (unstopped : before.control.stopRequested = false) (undue : before.dueDeadline? = none)
    {envelope : Envelope V} {rest : Mailbox (Envelope V) × Option Nat}
    (taken : before.mailbox.take? = some (envelope, rest)) :
    OnCourse limits (before.serveOne envelope rest) := by
  obtain ⟨backend, -, growth⟩ := serveOne_evolves serving envelope rest
  have journal := journal_serveOne serving envelope rest
  constructor
  case passed => exact onCourse.passed.advance (.processes serving unstopped undue taken)
  case configured => exact (limits_serveOne serving envelope rest).trans onCourse.configured
  case positive => exact onCourse.positive
  case noticed =>
    rw [now_serveOne serving,
      show (before.serveOne envelope rest).clock.noticed = before.clock.noticed from
        growth.agenda.noticed]
    exact Nat.le_trans onCourse.noticed (Nat.le_add_right ..)
  case ahead =>
    intro kind due armed
    obtain ⟨kept, moved⟩ := armed?_serveOne serving envelope rest
    cases kind with
    | absolute =>
        rw [kept] at armed
        refine (onCourse.crossed serving undue envelope rest armed).imp_right
          fun held => .inr ⟨rfl, ?_⟩
        rw [journal]
        exact held.mono (List.subset_append_left ..)
    | inactivity =>
        obtain ⟨length, configured, rfl⟩ := Option.map_eq_some_iff.mp (moved.symm.trans armed)
        have limited : limits .inactivity = some length := by
          rw [← onCourse.configured, ← limits_serveOne serving envelope rest]
          exact configured
        exact .inl (Clock.lt_deadline _ (onCourse.positive .inactivity length limited))
  case onTime =>
    rw [journal]
    refine (onCourse.onTime.append_undated fun record member => ?_).concat fun kind due set => ?_
    · exact Happening.undated_of_isByCleanup
        (isByCleanup_of_mem_effect_log (mem_of_mem_sequence member))
    · rw [due?_congr (startOf?_append_inert inert_of_mem_effect_log kind), ← onCourse.configured,
        ← onCourse.passed.armed serving] at set
      exact onCourse.crossed serving undue envelope rest set

/-- The backend serves until nothing is left for it to see to. -/
theorem serve (commands : Nat) (onCourse : OnCourse limits session)
    (serving : session.isServing) :
    OnCourse limits (session.serve commands) ∧ ¬(session.serve commands).Pressed
      ∧ (session.serve commands).clock.noticed = session.clock.noticed := by
  have ended {log : List (Happening V)} {heralds : List Event} {error : Option SceneError}
      {session after : Session V} (onCourse : OnCourse limits session)
      (serving : session.isServing) (cause : EndCause session log heralds error after) :
      OnCourse limits after ∧ ¬after.Pressed ∧ after.clock.noticed = session.clock.noticed :=
    ⟨onCourse.ends serving cause, not_pressed_of_halted (by simp [backendRuns, cause.backend]),
      cause.evolves.agenda.noticed⟩
  -- Nothing is due, and there is no command left or allowed.
  have waits {session : Session V} (onCourse : OnCourse limits session)
      (serving : session.isServing) (undue : session.dueDeadline? = none) :
      OnCourse limits session ∧ ¬session.Pressed
        ∧ session.clock.noticed = session.clock.noticed := by
    refine ⟨onCourse, ?_, rfl⟩
    rintro (fresh | ⟨kind, due, armed, lapsed⟩)
    · obtain ⟨absolute, inactivity, backend⟩ := serving
      cases fresh.symm.trans backend
    · exact absurd lapsed (Nat.not_le.mpr (onCourse.passed.undue undue armed))
  induction commands using Nat.strongRecOn generalizing session with
  | ind commands inductionHypothesis =>
      rw [serve_eq]
      split
      case isTrue stopped => exact ended onCourse serving (.stopped stopped)
      case isFalse unstopped =>
        rw [Bool.not_eq_true] at unstopped
        split
        case h_1 due => exact ended onCourse serving (.timedOut unstopped due)
        case h_2 later undue taken =>
          obtain ⟨served, unpressed, noticed⟩ := inductionHypothesis later (Nat.lt_succ_self later)
            (onCourse.serves serving unstopped undue taken) (serveOne_isServing serving _ _)
          obtain ⟨backend, -, growth⟩ := serveOne_evolves serving _ _
          exact ⟨served, unpressed, noticed.trans growth.agenda.noticed⟩
        case h_3 undue taken => exact waits onCourse serving undue
        case h_4 undue idle =>
          split
          · exact waits onCourse serving undue
          case isFalse unheld =>
            exact ended onCourse serving
              (.abandoned unstopped undue idle (by simpa using unheld))

theorem resumeBackend (onCourse : OnCourse limits session) :
    OnCourse limits session.resumeBackend ∧ ¬session.resumeBackend.Pressed
      ∧ session.resumeBackend.clock.noticed = session.clock.noticed := by
  unfold Session.resumeBackend
  split
  case h_1 fresh =>
    obtain ⟨served, unpressed, noticed⟩ :=
      (onCourse.opens fresh).serve session.mailbox.queued.length ⟨_, _, rfl⟩
    exact ⟨served, unpressed, noticed.trans session.openUp_evolves.agenda.noticed⟩
  case h_2 absolute inactivity serving =>
    exact onCourse.serve _ ⟨absolute, inactivity, serving⟩
  case h_3 unfresh idle =>
    refine ⟨onCourse, ?_, rfl⟩
    rintro (fresh | ⟨kind, due, armed, -⟩)
    · exact unfresh fresh
    · obtain ⟨absolute, inactivity, backend⟩ := isServing_of_armed? armed
      exact idle absolute inactivity backend

end OnCourse

end Session

end BoundedScene
