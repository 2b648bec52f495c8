import BoundedScene.Proofs.Punctual

/-!
Contract: a scene ends when its first deadline is due.

Owns:
- `Alert`, a scene on course whose backend is ready when it has something to see to;
- that the backend has its turn whenever the scene settles;
- the passage of time from alarm to alarm, which jumps over no deadline.

A backend that was woken has its turn in the same settling, since the run queue is first
come, first served and the turns allowed exceed its length.

A due deadline goes before queued commands, but it counts as due only once its millisecond has
been noticed, and that takes a moment in which every task waits.  A cleanup that takes the clock
across the absolute deadline leaves no such moment before the commands queued behind it, so these
are still processed.  `Punctual` promises nothing about them.

Main statement: `deadlines_kept`.

Does not own: schedules other than those of the run queue.
-/

namespace BoundedScene.Session

variable {V : Type} {session before after next : Session V} {limits : TimeoutKind → Option Span}

/-! ## Turns and deeds that take no time -/

theorem Idles.refl (session : Session V) : Idles session session :=
  ⟨[], [], session.handles, session.calls, session.mailbox, List.forall_mem_nil _,
    Evolves.refl session⟩

theorem wakeAll_idles (session : Session V) (tasks : List SceneTask) :
    Idles session (session.wakeAll tasks) :=
  ⟨[], [], session.handles, session.calls, session.mailbox, List.forall_mem_nil _,
    wakeAll_evolves session tasks⟩

/-- Nobody but the backend does anything that a deadline depends on. -/
theorem resume_idles {task : SceneTask} (other : task ≠ .backend) (session : Session V) :
    Idles session (resume task session) := by
  cases task with
  | backend => exact absurd rfl other
  | delivery task =>
      exact ⟨[], [], session.handles, session.calls, session.mailbox, List.forall_mem_nil _,
        session.resumeDelivery_evolves task⟩
  | call id =>
      cases found : session.calls[id]? with
      | some call => exact session.resumeCall_idles found
      | none =>
          have still : session.resumeCall id = session := by
            unfold resumeCall
            rw [found]
          rw [show resume (.call id) session = session from still]
          exact .refl session

theorem act_idles {deed : Deed V} (kept : deed ≠ .dropTasks) (session : Session V) :
    Idles session (session.act deed) := by
  cases deed with
  | call request => exact session.makeCall_idles request
  | cancel id =>
      show Idles session (session.cancel id)
      cases found : session.calls[id]? with
      | none =>
          unfold cancel
          rw [found]
          exact .refl session
      | some call =>
          cases unfinished : call.isUnfinished with
          | true => exact session.cancel_idles found unfinished
          | false =>
              unfold cancel
              simp only [found, unfinished]
              exact .refl session
  | clone =>
      exact ⟨[], [], session.handles ++ [true], session.calls, session.mailbox,
        List.forall_mem_nil _, Evolves.refl _⟩
  | drop handle =>
      exact ⟨[], [], session.handles.set handle false, session.calls, session.mailbox,
        List.forall_mem_nil _, noteHandles_evolves _⟩
  | release lane count =>
      exact ⟨[], [], session.handles, session.calls, session.mailbox, List.forall_mem_nil _,
        session.release_evolves lane count⟩
  | dropTasks => exact absurd rfl kept

/-! ## The backend is ready when it has to be -/

/-- A scene on course whose backend is ready when it has something to see to. -/
structure Alert (limits : TimeoutKind → Option Span) (session : Session V) : Prop where
  onCourse : OnCourse limits session
  awake : session.Pressed → .backend ∈ session.agenda.ready

/-- The backend has had its turn: what is due was overrun by a cleanup meanwhile. -/
structure Eased (session : Session V) : Prop where
  begun : session.backend ≠ .fresh
  overrun : ∀ kind due, session.armed? kind = some due → due ≤ session.clock.noticed →
    kind = .absolute ∧ Held session.journal (Clock.instantOf due)

theorem eased_of_not_pressed (unpressed : ¬session.Pressed) : session.Eased where
  begun fresh := unpressed (.inl fresh)
  overrun kind due armed lapsed := absurd (.inr ⟨kind, due, armed, lapsed⟩) unpressed

theorem Idles.pressed (idles : Idles before after) (pressed : after.Pressed) : before.Pressed := by
  unfold Pressed at pressed ⊢
  rwa [idles.backend, armed?_congr idles.backend,
    show after.clock.noticed = before.clock.noticed from idles.agenda.noticed] at pressed

theorem Idles.eased (idles : Idles before after) (eased : before.Eased) : after.Eased where
  begun := by
    rw [idles.backend]
    exact eased.begun
  overrun kind due armed lapsed := by
    obtain ⟨added, journal, -⟩ := idles.journal
    rw [armed?_congr idles.backend] at armed
    rw [show after.clock.noticed = before.clock.noticed from idles.agenda.noticed] at lapsed
    obtain ⟨absolute, held⟩ := eased.overrun kind due armed lapsed
    rw [journal]
    exact ⟨absolute, held.mono (List.subset_append_left ..)⟩

theorem Alert.idles (alert : Alert limits before) (idles : Idles before after)
    (passed : Passed after) : Alert limits after where
  onCourse := alert.onCourse.idles idles passed
  awake pressed := idles.agenda.queue.subset (alert.awake (idles.pressed pressed))

/-! ## The clock moves on -/

theorem mem_alarms {kind : TimeoutKind} {due : Nat} (armed : session.armed? kind = some due) :
    (⟨due, .backend⟩ : Alarm SceneTask) ∈ Turns.alarms session := by
  show _ ∈ session.alarms
  unfold alarms
  unfold armed? at armed
  cases backend : session.backend with
  | serving absolute inactivity =>
      rw [backend] at armed
      cases kind <;> simp_all
  | _ =>
      rw [backend] at armed
      cases armed

theorem backend_mem_dueOwners {kind : TimeoutKind} {due : Nat}
    (armed : session.armed? kind = some due) (lapsed : due ≤ session.clock.noticed) :
    .backend ∈ Turns.dueOwners session :=
  Turns.mem_dueOwners (mem_alarms armed) (decide_eq_true lapsed)

/-- Moving the clock on does nothing else but wake tasks. -/
theorem reach_idles (instant : Nat) (session : Session V) :
    Idles { session with agenda := { session.agenda with clock := session.clock.reach instant } }
      (Turns.reach instant session) :=
  wakeAll_idles _ _

theorem noticed_reach (instant : Nat) (session : Session V) :
    (Turns.reach instant session).clock.noticed
      = max session.clock.noticed
        (max session.clock.now instant / Span.nanosecondsPerMillisecond) :=
  (reach_idles instant session).agenda.noticed

/-- The clock moves on to an instant that no deadline lies before, and the backend is woken
if one is due then. -/
theorem Alert.reach (alert : Alert limits session) (eased : session.Eased) (instant : Nat)
    (near : ∀ kind due, session.armed? kind = some due → session.clock.noticed < due →
      instant ≤ Clock.instantOf due
        ∨ kind = .absolute ∧ Held session.journal (Clock.instantOf due)) :
    Alert limits (Turns.reach instant session) := by
  let clock := session.clock.reach instant
  let moved : Session V := { session with agenda := { session.agenda with clock } }
  have now : clock.now = max session.clock.now instant := rfl
  have noticed : clock.noticed
      = max session.clock.noticed (clock.now / Span.nanosecondsPerMillisecond) := rfl
  have onCourse : OnCourse limits moved := by
    refine alert.onCourse.withAgenda _ (Clock.instantOf_le_iff.mpr ?_) fun kind due armed => ?_
    · have earlier := Clock.instantOf_le_iff.mp (Nat.le_trans alert.onCourse.noticed
        (Nat.le_max_left session.clock.now instant))
      exact Nat.max_le.mpr ⟨earlier, Nat.le_refl _⟩
    · rcases Nat.lt_or_ge session.clock.noticed due with waits | lapsed
      case inr => exact .inr (.inr (eased.overrun kind due armed lapsed))
      rcases near kind due armed waits with close | held
      case inr => exact .inr (.inr held)
      rcases alert.onCourse.ahead kind due armed with early | ⟨-, lapsed⟩ | held
      · have upTo : clock.now ≤ Clock.instantOf due :=
          Nat.max_le.mpr ⟨Nat.le_of_lt early, close⟩
        rcases Nat.lt_or_eq_of_le upTo with ahead | reached
        · exact .inl ahead
        · have seen := Clock.instantOf_le_iff.mp (Nat.le_of_eq reached.symm)
          exact .inr (.inl ⟨reached, Nat.le_trans seen (Nat.le_max_right _ _)⟩)
      · exact absurd lapsed (Nat.not_le.mpr waits)
      · exact .inr (.inr held)
  have idles : Idles moved (Turns.reach instant session) := reach_idles instant session
  refine ⟨onCourse.idles idles (alert.onCourse.passed.advances (session.reach_advances instant)),
    fun pressed => Agenda.mem_wakeAll.mpr ?_⟩
  rcases idles.pressed pressed with fresh | ⟨kind, due, armed, lapsed⟩
  · exact absurd fresh eased.begun
  · have owns : .backend ∈ Turns.dueOwners moved := backend_mem_dueOwners armed lapsed
    exact .inl owns

/-! ## Turns -/

/-- Fewer than `turns` tasks are ready before the backend. -/
def Queued (session : Session V) (turns : Nat) : Prop :=
  ∃ ahead behind, session.agenda.ready = ahead ++ .backend :: behind ∧ ahead.length < turns

/-- What turns lead to. -/
structure Carried (limits : TimeoutKind → Option Span) (before after : Session V) : Prop where
  alert : Alert limits after
  noticed : before.clock.noticed ≤ after.clock.noticed
  eased : before.Eased → after.Eased

theorem Carried.trans {middle : Session V} (first : Carried limits before middle)
    (second : Carried limits middle after) : Carried limits before after where
  alert := second.alert
  noticed := Nat.le_trans first.noticed second.noticed
  eased := second.eased ∘ first.eased

/-- The turn of the backend. -/
theorem Alert.backend_turn (alert : Alert limits session) (later : List SceneTask) :
    Carried limits session
        (resume .backend { session with agenda := { session.agenda with ready := later } })
      ∧ (resume .backend
          { session with agenda := { session.agenda with ready := later } }).Eased := by
  obtain ⟨onCourse, unpressed, noticed⟩ := (alert.onCourse.withReady later).resumeBackend
  have eased := eased_of_not_pressed unpressed
  exact ⟨⟨⟨onCourse, fun pressed => absurd pressed unpressed⟩, Nat.le_of_eq noticed.symm,
    fun _ => eased⟩, eased⟩

/-- The turn of another task brings that of the backend nearer. -/
theorem Alert.other_turn (alert : Alert limits session) {task : SceneTask}
    {later : List SceneTask} (other : task ≠ .backend)
    (ready : session.agenda.ready = task :: later) :
    let next := resume task { session with agenda := { session.agenda with ready := later } }
    Carried limits session next ∧ ∀ turns, session.Queued (turns + 1) → next.Queued turns := by
  intro next
  let dequeued : Session V := { session with agenda := { session.agenda with ready := later } }
  have onCourse := alert.onCourse.withReady later
  have idles : Idles dequeued next := resume_idles other dequeued
  refine ⟨⟨⟨onCourse.idles idles (onCourse.passed.advances (resume_advances task dequeued)),
    fun pressed => ?_⟩, ?_, fun eased => ?_⟩, fun turns queued => ?_⟩
  · have present : .backend ∈ session.agenda.ready := alert.awake (idles.pressed pressed)
    rw [ready, List.mem_cons] at present
    exact idles.agenda.queue.subset (present.resolve_left other.symm)
  · exact Nat.le_of_eq idles.agenda.noticed.symm
  · exact idles.eased ⟨eased.begun, eased.overrun⟩
  · obtain ⟨ahead, behind, queue, short⟩ := queued
    rw [ready] at queue
    cases ahead with
    | nil => exact absurd (List.cons_eq_cons.mp queue).1 other
    | cons first rest =>
        obtain ⟨-, rfl⟩ := List.cons_eq_cons.mp queue
        obtain ⟨woken, longer⟩ := idles.agenda.queue
        exact ⟨rest, behind ++ woken, by rw [← longer]; simp [dequeued],
          Nat.lt_of_succ_lt_succ short⟩

/-- When no task is ready, the clock notices the time that cleanups took. -/
theorem Alert.catch_up (alert : Alert limits session) (ready : session.agenda.ready = []) :
    Carried limits session (Turns.reach session.clock.now session) := by
  have unpressed : ¬session.Pressed := fun pressed => by
    have present := alert.awake pressed
    rw [ready] at present
    cases present
  have eased := eased_of_not_pressed unpressed
  -- What is noticed only now was overrun.
  have overrun (kind : TimeoutKind) (due : Nat) (armed : session.armed? kind = some due)
      (reached : Clock.instantOf due ≤ session.clock.now) :
      kind = .absolute ∧ Held session.journal (Clock.instantOf due) := by
    rcases alert.onCourse.ahead kind due armed with early | ⟨-, lapsed⟩ | held
    · exact absurd early (Nat.not_lt.mpr reached)
    · exact eased.overrun kind due armed lapsed
    · exact held
  have idles := reach_idles session.clock.now session
  refine ⟨alert.reach eased _ fun kind due armed waits => ?_, ?_, fun _ => ?_⟩
  · rcases Nat.le_total session.clock.now (Clock.instantOf due) with close | reached
    · exact .inl close
    · exact .inr (overrun kind due armed reached)
  · rw [noticed_reach]
    exact Nat.le_max_left _ _
  · refine idles.eased ⟨eased.begun, fun kind due armed lapsed => ?_⟩
    have either : due ≤ session.clock.noticed
        ∨ due ≤ max session.clock.now session.clock.now / Span.nanosecondsPerMillisecond := by
      have reached : due ≤ max session.clock.noticed _ := lapsed
      omega
    rcases either with early | seen
    · exact eased.overrun kind due armed early
    · rw [Nat.max_self] at seen
      exact overrun kind due armed (Clock.instantOf_le_iff.mpr seen)

/-- A turn is that of the backend or of another task, or the clock catches up. -/
theorem Alert.turn (alert : Alert limits session) (turn : Turns.turn? session = some next) :
    Carried limits session next
      ∧ ∀ turns, session.Queued (turns + 1) → next.Eased ∨ next.Queued turns := by
  unfold Turns.turn? at turn
  split at turn
  case h_1 task later ready =>
    cases turn
    by_cases own : task = .backend
    · subst own
      obtain ⟨carried, eased⟩ := alert.backend_turn later
      exact ⟨carried, fun _ _ => .inl eased⟩
    · obtain ⟨carried, nearer⟩ := alert.other_turn own ready
      exact ⟨carried, fun turns queued => .inr (nearer turns queued)⟩
  case h_2 ready =>
    split at turn
    case isFalse => cases turn
    case isTrue =>
      cases turn
      refine ⟨alert.catch_up ready, fun turns queued => ?_⟩
      obtain ⟨ahead, behind, queue, -⟩ := queued
      rw [show session.agenda.ready = [] from ready] at queue
      cases ahead <;> cases queue

/-- The backend has its turn if it is near enough to the front of the queue. -/
theorem Alert.run (turns : Nat) (alert : Alert limits session)
    (near : session.Eased ∨ session.Queued turns) :
    Carried limits session (Turns.run turns session) ∧ (Turns.run turns session).Eased := by
  induction turns generalizing session with
  | zero =>
      refine ⟨⟨alert, Nat.le_refl _, id⟩, near.resolve_right ?_⟩
      rintro ⟨ahead, behind, -, short⟩
      exact Nat.not_lt_zero _ short
  | succ turns inductionHypothesis =>
      unfold Turns.run
      cases turn : Turns.turn? session with
      | some next =>
          obtain ⟨carried, nearer⟩ := alert.turn turn
          have closer : next.Eased ∨ next.Queued turns := near.elim (.inl ∘ carried.eased)
            (nearer turns)
          obtain ⟨later, eased⟩ := inductionHypothesis carried.alert closer
          exact ⟨carried.trans later, eased⟩
      | none =>
          refine ⟨⟨alert, Nat.le_refl _, id⟩, near.resolve_right ?_⟩
          rintro ⟨ahead, behind, queue, -⟩
          have busy : session.agenda.ready ≠ [] := by simp [queue]
          unfold Turns.turn? at turn
          split at turn
          · cases turn
          case h_2 ready => exact busy ready

/-- The turns allowed are enough for the backend to have its own. -/
theorem Alert.settle (alert : Alert limits session) :
    Carried limits session (Turns.settle session) ∧ (Turns.settle session).Eased := by
  refine alert.run _ ?_
  by_cases pressed : session.Pressed
  · obtain ⟨ahead, behind, queue⟩ := List.append_of_mem (alert.awake pressed)
    have short : ahead.length < session.agenda.ready.length := by
      rw [queue, List.length_append, List.length_cons]
      omega
    have allowed : session.agenda.ready.length ≤ Turns.allowance session := by
      show _ ≤ session.allowance
      unfold allowance sceneAllowance
      dsimp only
      omega
    exact .inr ⟨ahead, behind, queue, Nat.lt_of_lt_of_le short allowed⟩
  · exact .inl (eased_of_not_pressed pressed)

/-! ## The passage of time -/

/-- A deadline that has not been noticed and is due by the target is among the alarms to
follow. -/
theorem mem_pending {target : Nat} {kind : TimeoutKind} {due : Nat}
    (armed : session.armed? kind = some due) (waits : session.clock.noticed < due)
    (close : Clock.instantOf due ≤ target) :
    due ∈ (Turns.alarms session).filterMap fun alarm =>
      if (Turns.clock session).noticed < alarm.due
        ∧ alarm.due * Span.nanosecondsPerMillisecond ≤ target
      then some alarm.due else none :=
  List.mem_filterMap.mpr ⟨_, mem_alarms armed, if_pos ⟨waits, close⟩⟩

/-- The next alarm comes no later than any deadline that has not been noticed. -/
theorem nextAlarm?_some {target alarm : Nat}
    (follows : Turns.nextAlarm? target session = some alarm) :
    session.clock.noticed < alarm ∧ ∀ kind due, session.armed? kind = some due →
      session.clock.noticed < due → Clock.instantOf alarm ≤ Clock.instantOf due := by
  obtain ⟨listed, least⟩ := List.min?_eq_some_iff.mp follows
  obtain ⟨entry, -, chosen⟩ := List.mem_filterMap.mp listed
  split at chosen
  case isFalse => cases chosen
  case isTrue pending =>
    cases chosen
    refine ⟨pending.1, fun kind due armed waits => ?_⟩
    rcases Nat.le_total (Clock.instantOf due) target with close | far
    · exact Clock.instantOf_le_instantOf.mpr (least due (mem_pending armed waits close))
    · exact Nat.le_trans pending.2 far

/-- Going from alarm to alarm misses no deadline up to the target. -/
theorem Alert.followAlarms (target jumps : Nat) (alert : Alert limits session)
    (eased : session.Eased)
    (enough : target / Span.nanosecondsPerMillisecond ≤ session.clock.noticed + jumps) :
    Alert limits (Turns.followAlarms target jumps session)
      ∧ (Turns.followAlarms target jumps session).Eased
      ∧ ∀ kind due, (Turns.followAlarms target jumps session).armed? kind = some due →
        (Turns.followAlarms target jumps session).clock.noticed < due →
          target < Clock.instantOf due := by
  induction jumps generalizing session with
  | zero =>
      refine ⟨alert, eased, fun kind due armed waits => Nat.not_le.mp fun close => ?_⟩
      have seen := Clock.instantOf_le_iff.mp close
      exact absurd waits (Nat.not_lt.mpr (Nat.le_trans seen enough))
  | succ jumps inductionHypothesis =>
      unfold Turns.followAlarms
      cases follows : Turns.nextAlarm? target session with
      | none =>
          refine ⟨alert, eased, fun kind due armed waits => Nat.not_le.mp fun close => ?_⟩
          have pending := mem_pending armed waits close
          rw [List.min?_eq_none_iff.mp follows] at pending
          cases pending
      | some alarm =>
          obtain ⟨later, least⟩ := nextAlarm?_some follows
          have jumped := alert.reach eased (Clock.instantOf alarm)
            fun kind due armed waits => .inl (least kind due armed waits)
          obtain ⟨settled, again⟩ := jumped.settle
          have seen : alarm ≤ (Turns.reach (Clock.instantOf alarm) session).clock.noticed := by
            rw [noticed_reach]
            exact Nat.le_trans (Clock.instantOf_le_iff.mp (Nat.le_max_right session.clock.now _))
              (Nat.le_max_right ..)
          have kept := settled.noticed
          refine inductionHypothesis settled.alert again ?_
          change _
            ≤ (Turns.settle (Turns.reach (Clock.instantOf alarm) session)).clock.noticed + jumps
          omega

theorem Alert.elapse (alert : Alert limits session) (length : Span) :
    Alert limits (Turns.elapse length session) ∧ (Turns.elapse length session).Eased := by
  obtain ⟨settled, eased⟩ := alert.settle
  let target := (Turns.clock (Turns.settle session)).now + length.nanoseconds
  obtain ⟨followed, still, passed⟩ := settled.alert.followAlarms target
    (target / Span.nanosecondsPerMillisecond - (Turns.clock (Turns.settle session)).noticed) eased
    (by show _ ≤ (Turns.clock (Turns.settle session)).noticed + _; omega)
  have arrived := followed.reach still target fun kind due armed waits =>
    .inl (Nat.le_of_lt (passed kind due armed waits))
  obtain ⟨last, again⟩ := arrived.settle
  exact ⟨last.alert, again⟩

theorem Alert.actAll (deeds : List (Deed V)) (alert : Alert limits session) :
    Alert limits (session.actAll deeds) := by
  unfold Session.actAll
  induction deeds generalizing session with
  | nil => exact alert
  | cons deed rest inductionHypothesis =>
      refine inductionHypothesis ?_
      have passed := alert.onCourse.passed.advances (session.act_advances deed)
      by_cases lost : deed = .dropTasks
      · subst lost
        have halted := session.backendRuns_dropTasks
        exact {
          onCourse := {
            passed
            configured := alert.onCourse.configured
            positive := alert.onCourse.positive
            noticed := alert.onCourse.noticed
            ahead := fun kind due armed => by
              have serving := isServing_of_armed? armed
              exact absurd serving.runs (by simp [act, halted])
            onTime := alert.onCourse.onTime }
          awake := fun pressed => absurd pressed (not_pressed_of_halted halted) }
      · exact alert.idles (act_idles lost session) passed

theorem Alert.perform (alert : Alert limits session) (step : Step V) :
    Alert limits (session.perform step) ∧ (session.perform step).Eased := by
  cases step with
  | deeds deeds =>
      obtain ⟨settled, eased⟩ := (alert.actAll deeds).settle
      exact ⟨settled.alert, eased⟩
  | elapse length => exact alert.elapse length

/-- A run keeps a scene on course, and after the first step the backend has had its
turns. -/
theorem Alert.performAll (steps : List (Step V)) (alert : Alert limits session) :
    Alert limits (session.performAll steps)
      ∧ (steps ≠ [] → (session.performAll steps).Eased) := by
  unfold Session.performAll
  induction steps generalizing session with
  | nil => exact ⟨alert, fun some => absurd rfl some⟩
  | cons first rest inductionHypothesis =>
      obtain ⟨stepped, eased⟩ := alert.perform first
      obtain ⟨last, later⟩ := inductionHypothesis stepped
      refine ⟨last, fun _ => ?_⟩
      cases rest with
      | nil => exact eased
      | cons => exact later (List.cons_ne_nil _ _)

theorem alert_of_create? {settings : Settings} {profiles : List Profile}
    {visiting : VisitingOrder V} (created : create? settings profiles visiting = some session) :
    Alert settings.limits session := by
  have initial := isInitial_of_create? created
  have idle : ¬session.isServing := by
    rintro ⟨absolute, inactivity, backend⟩
    cases initial.backend.symm.trans backend
  have started : session.configured? = settings.limits ∧ session.clock = {} := by
    unfold create? at created
    split at created
    case isFalse => cases created
    case isTrue =>
      obtain ⟨feed, -, rfl⟩ := Option.map_eq_some_iff.mp created
      exact ⟨by funext kind; cases kind <;> rfl, rfl⟩
  refine ⟨?_, fun _ => initial.ready⟩
  constructor
  case passed => exact .initial initial
  case configured => exact started.1
  case positive => exact fun kind after => Settings.limits_positive
  case noticed => rw [started.2]; exact Nat.le_refl _
  case ahead =>
    intro kind due armed
    exact absurd (isServing_of_armed? armed) idle
  case onTime =>
    intro early record late split
    rw [initial.journal] at split
    cases early <;> cases split

/-! ## The main statement -/

/-- How a scene keeps its deadlines, all of which follow from the journal: the absolute one
from the start of the backend, the inactivity one from the last processed command. -/
structure Punctual (limits : TimeoutKind → Option Span) (session : Session V) : Prop where
  armed : ∀ absolute inactivity, session.backend = .serving absolute inactivity →
    absolute = due? limits session.journal .absolute
      ∧ inactivity = due? limits session.journal .inactivity
  waits : session.isServing → ∀ kind due, due? limits session.journal kind = some due →
    session.clock.now < Clock.instantOf due
      ∨ kind = .absolute ∧ Held session.journal (Clock.instantOf due)
  rests : session.isServing → Turns.turn? session = none →
    ∀ kind due, due? limits session.journal kind = some due →
      session.clock.now < Clock.instantOf due
  onTime : AllOnTime limits session.journal
  timedOut : ∀ early instant kind after late,
    session.journal = early ++ { instant, happening := .concluded (some (kind, after)) } :: late →
      session.TimedOut instant (.timeout kind after) late
  excused : session.backend = .returned → session.happenings.any Happening.asksToStop = true
    ∨ ∃ deadline, .concluded deadline ∈ session.happenings

theorem Alert.punctual (alert : Alert limits session)
    (eased : session.isServing → session.Eased) : session.Punctual limits := by
  have passed := alert.onCourse.passed
  have journal (serving : session.isServing) (kind : TimeoutKind) :
      session.armed? kind = due? limits session.journal kind := by
    rw [← alert.onCourse.configured]
    exact passed.armed serving kind
  constructor
  case armed =>
    intro absolute inactivity backend
    rw [← journal ⟨absolute, inactivity, backend⟩, ← journal ⟨absolute, inactivity, backend⟩]
    unfold armed?
    rw [backend]
    exact ⟨rfl, rfl⟩
  case waits =>
    intro serving kind due set
    have armed := (journal serving kind).trans set
    rcases alert.onCourse.ahead kind due armed with early | ⟨-, lapsed⟩ | held
    · exact .inl early
    · exact .inr ((eased serving).overrun kind due armed lapsed)
    · exact .inr held
  case rests =>
    intro serving rest kind due set
    have armed := (journal serving kind).trans set
    unfold Turns.turn? at rest
    split at rest
    case h_1 => cases rest
    case h_2 idle =>
      split at rest
      case isTrue => cases rest
      case isFalse caughtUp =>
        refine Nat.not_le.mp fun reached => ?_
        have seen := Clock.instantOf_le_iff.mp reached
        have lapsed : due ≤ session.clock.noticed := by
          refine Nat.le_trans seen (Nat.not_lt.mp fun behind => caughtUp ?_)
          exact decide_eq_true behind
        have ready := alert.awake (.inr ⟨kind, due, armed, lapsed⟩)
        rw [show session.agenda.ready = [] from idle] at ready
        cases ready
  case onTime => exact alert.onCourse.onTime
  case timedOut => exact fun _ _ _ _ _ fired => passed.timedOut fired
  case excused => exact passed.ended_for

/-- Whatever the users do, a scene keeps its deadlines.  It is not ended by one before the
first of them is due.  At that instant it ends with the timeout of that deadline, the
absolute one if both are due at once, and no command is processed from then on, unless a
cleanup run for a command keeps the backend busy across the instant. -/
theorem deadlines_kept {settings : Settings} {profiles : List Profile}
    {visiting : VisitingOrder V} {initial : Session V}
    (created : create? settings profiles visiting = some initial) (steps : List (Step V)) :
    (initial.performAll steps).Punctual settings.limits
      ∧ ((initial.performAll steps).backend = .fresh → steps = []) := by
  obtain ⟨alert, eased⟩ := (alert_of_create? created).performAll steps
  have begun (fresh : (initial.performAll steps).backend = .fresh) : steps = [] :=
    Classical.byContradiction fun some => (eased some).begun fresh
  refine ⟨alert.punctual fun serving => eased ?_, begun⟩
  rintro rfl
  obtain ⟨absolute, inactivity, backend⟩ := serving
  cases (isInitial_of_create? created).backend.symm.trans backend

/-! ## Two runs -/

/-- The deadlines that fired, with the instants at which they did. -/
def firings (session : Session V) : List (Nat × TimeoutKind × Span) :=
  session.journal.filterMap fun record =>
    record.happening.deadline?.map fun deadline => (record.instant, deadline)

/-- The callers whose commands were processed, with the instants. -/
def services (session : Session V) : List (Nat × Nat) :=
  session.journal.filterMap fun record =>
    record.happening.processed?.map fun entry => (record.instant, entry.caller)

def hasty : Settings where
  inactivity := .ofMilliseconds 20
  absolute := .ofMilliseconds 50

/-- A scene that ends 20 ms after its last command, and 50 ms after its start. -/
def hastyScene : Session Nat :=
  { plain with inactivity := some (.ofMilliseconds 20), absolute := some (.ofMilliseconds 50) }

/-- A store at once and a fetch after 15 ms. -/
def fetchInTime : List (Step Nat) :=
  [.deeds [.call (.store "n" 1 none)], .elapse (.ofMilliseconds 15),
    .deeds [.call (.fetch "n")], .elapse (.ofMilliseconds 30)]

theorem deadlines_kept_fetchInTime :
    create? hasty [] = some hastyScene
      ∧ (hastyScene.performAll fetchInTime).firings
        = [(Clock.instantOf 35, .inactivity, .ofMilliseconds 20)]
      ∧ (hastyScene.performAll fetchInTime).Punctual hasty.limits := by
  have created : create? hasty [] = some hastyScene := rfl
  exact ⟨created, by decide +kernel, (deadlines_kept created fetchInTime).1⟩

def roomy : Settings where
  absolute := .ofMilliseconds 50
  commandCapacity := 4

def roomyScene : Session Nat :=
  { plain with absolute := some (.ofMilliseconds 50), mailbox := { capacity := 4 } }

/-- A dispose whose cleanup takes 100 ms, with a store behind it. -/
def disposeThenStore : List (Step Nat) :=
  [.deeds [.call (.store "n" 1 (some { act := .pass (.ofMilliseconds 100) }))],
    .deeds [.call (.dispose "n"), .call (.store "m" 2 none)]]

/-- A cleanup keeps the backend busy across the deadline of 50 ms.  The store that was queued
behind it should find the scene timed out.  It is processed, at 100 ms, and only then does the
deadline end the scene. -/
theorem deadline_overrun :
    create? roomy [] = some roomyScene
      ∧ due? roomy.limits (roomyScene.performAll disposeThenStore).journal .absolute = some 50
      ∧ (roomyScene.performAll disposeThenStore).services
        = [(0, 0), (Clock.instantOf 100, 1), (Clock.instantOf 100, 2)]
      ∧ (roomyScene.performAll disposeThenStore).firings
        = [(Clock.instantOf 100, .absolute, .ofMilliseconds 50)]
      ∧ (roomyScene.performAll disposeThenStore).happenings.any Happening.asksToStop = false
      ∧ (roomyScene.performAll disposeThenStore).anyHandle = true :=
  ⟨rfl, by decide +kernel, by decide +kernel, by decide +kernel, by decide +kernel,
    by decide +kernel⟩

end BoundedScene.Session
