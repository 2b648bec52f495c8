import BoundedScene.Proofs.Capacity.Assembly

/-!
Contract: scenes between two steps of their users, and scenes that are left to themselves.

Owns:
- that a scene without subscribers comes to rest however it is used;
- `Unattended`, twins in which nobody wants to enter the mailbox, and that they stay twins while
  they settle and while time passes;
- `Dormant`, that nothing is processed meanwhile;
- `Poised`, a scene between two steps, and that calls leave it assembled.

Main statements: `Unattended.elapse` and `Poised.assembled`.

Does not own: scenes with callers in line.
-/

namespace BoundedScene

/-- Who wants to enter the mailbox is new or waits for a slot. -/
theorem Call.submits_eq {V : Type} (call : Call V) :
    call.submits = (call.isNewcomer || call.isSeeker) := by
  unfold Call.submits Call.isNewcomer Call.isSeeker
  cases call.stage <;> simp

namespace Session

variable {V : Type} {session before after left right : Session V}
  {limits : TimeoutKind → Option Span}

/-! ## Scenes that are left to themselves -/

theorem Leads.orderly (leads : Leads before after) (orderly : before.Orderly) : after.Orderly := by
  obtain ⟨schedule, rfl⟩ := leads
  exact ⟨orderly.reachable.moves schedule, orderly.unwatched.moves schedule⟩

theorem leads_actAll (session : Session V) (deeds : List (Deed V)) :
    Leads session (session.actAll deeds) :=
  ⟨deeds.map .act, by rw [moves, List.foldl_map]; rfl⟩

theorem keeps_orderly : Turns.Keeps fun session : Session V => session.Orderly where
  resume held ready := ((keeps_leads _).resume (.refl _) ready).orderly held
  reach instant held := held.move (.reach instant)

theorem Orderly.rests_perform (orderly : session.Orderly) (step : Step V) :
    Turns.turn? (session.perform step) = none := by
  cases step with
  | deeds deeds => exact ((leads_actAll session deeds).orderly orderly).settles
  | elapse length =>
      have settled := keeps_orderly.settle orderly
      exact (keeps_orderly.reach _ (keeps_orderly.followAlarms _ _ settled)).settles

/-- A scene without subscribers comes to rest however it is used. -/
theorem Orderly.settlesThroughout (orderly : session.Orderly) (steps : List (Step V)) :
    session.SettlesThroughout steps := by
  induction steps generalizing session with
  | nil => trivial
  | cons first rest inductionHypothesis =>
      refine ⟨?_, inductionHypothesis ((leads_perform session first).orderly orderly)⟩
      cases first with
      | deeds deeds => exact ((leads_actAll session deeds).orderly orderly).settles
      | elapse length =>
          exact keeps_orderly.settlesElapsing (fun _ held => held.settles) length orderly

/-- Twins without subscribers in which nobody wants to enter the mailbox. -/
structure Unattended (left right : Session V) : Prop extends Twins True left right where
  undemanding : left.Undemanding
  leftOrderly : left.Orderly
  rightOrderly : right.Orderly

namespace Unattended

theorem settle (unattended : Unattended left right) :
    Unattended (Turns.settle left) (Turns.settle right) := by
  obtain ⟨twins, undemanding⟩ := unattended.run_to_rest unattended.undemanding
    unattended.leftOrderly.settles unattended.rightOrderly.settles
  exact ⟨twins, undemanding, keeps_orderly.settle unattended.leftOrderly,
    keeps_orderly.settle unattended.rightOrderly⟩

theorem reach (unattended : Unattended left right) (instant : Nat) :
    Unattended (Turns.reach instant left) (Turns.reach instant right) :=
  ⟨unattended.toTwins.reach instant, unattended.undemanding,
    keeps_orderly.reach instant unattended.leftOrderly,
    keeps_orderly.reach instant unattended.rightOrderly⟩

theorem followAlarms (target jumps : Nat) (unattended : Unattended left right) :
    Unattended (Turns.followAlarms target jumps left)
      (Turns.followAlarms target jumps right) := by
  induction jumps generalizing left right with
  | zero => exact unattended
  | succ jumps inductionHypothesis =>
      have clock : Turns.clock left = Turns.clock right := unattended.clock
      have alarms : Turns.alarms left = Turns.alarms right := unattended.toTwins.alarms
      have next : Turns.nextAlarm? target left = Turns.nextAlarm? target right := by
        unfold Turns.nextAlarm?
        rw [clock, alarms]
      unfold Turns.followAlarms
      rw [next]
      cases Turns.nextAlarm? target right with
      | none => exact unattended
      | some due => exact inductionHypothesis (unattended.reach _).settle

theorem elapse (length : Span) (unattended : Unattended left right) :
    Unattended (Turns.elapse length left) (Turns.elapse length right) := by
  have settled := unattended.settle
  have clock : Turns.clock (Turns.settle left) = Turns.clock (Turns.settle right) :=
    settled.clock
  unfold Turns.elapse
  dsimp only
  rw [clock]
  exact ((settled.followAlarms _ _).reach _).settle

end Unattended

/-! ## Nothing is processed without callers -/

theorem Idles.ledger (idles : Idles before after) : after.ledger = before.ledger := by
  obtain ⟨log, changes, handles, calls, mailbox, idle, growth⟩ := idles
  have happenings : after.happenings = before.happenings ++ log := growth.happenings
  have none : log.filterMap Happening.processed? = [] := Happening.processed_of_calm
    fun happening member => (Bool.and_eq_true_iff.mp (idle happening member)).1
  rw [ledger_of_happenings before happenings, none, List.append_nil]

theorem ledger_actAll (deeds : List (Deed V)) (session : Session V) :
    (session.actAll deeds).ledger = session.ledger := by
  unfold actAll
  induction deeds generalizing session with
  | nil => rfl
  | cons first rest inductionHypothesis =>
      refine (inductionHypothesis (session.act first)).trans ?_
      by_cases lost : first = .dropTasks
      · subst lost
        rfl
      · exact (act_idles lost session).ledger

theorem ledger_serve_of_blank (blank : session.mailbox.IsBlank) (commands : Nat) :
    (session.serve commands).ledger = session.ledger := by
  rw [serve_of_blank blank]
  split
  case isTrue stopped => exact (EndCause.stopped stopped).ledger
  case isFalse unstopped =>
    rw [Bool.not_eq_true] at unstopped
    cases due : session.dueDeadline? with
    | some deadline => exact (EndCause.timedOut unstopped due).ledger
    | none =>
        dsimp only
        split
        case isTrue => rfl
        case isFalse unheld =>
          rw [Bool.not_eq_true] at unheld
          exact (EndCause.abandoned unstopped due blank.take? unheld).ledger

/-- Without a command in the mailbox, no turn processes one. -/
theorem ledger_resume (blank : session.mailbox.IsBlank) (task : SceneTask) :
    (resume task session).ledger = session.ledger := by
  by_cases own : task = .backend
  case neg => exact (resume_idles own session).ledger
  case pos =>
    subst own
    show session.resumeBackend.ledger = session.ledger
    unfold resumeBackend
    split
    case h_1 =>
      have opened : session.openUp.mailbox.IsBlank := blank
      refine (ledger_serve_of_blank opened _).trans ?_
      rw [ledger_of_happenings session session.openUp_evolves.happenings]
      exact List.append_nil _
    case h_2 => exact ledger_serve_of_blank blank _
    case h_3 => rfl

/-- A scene whose mailbox is blank and that nobody wants to enter, with what it has
processed. -/
structure Dormant (ledger : List (Processed V)) (session : Session V) : Prop where
  blank : session.mailbox.IsBlank
  undemanding : session.Undemanding
  ledger : session.ledger = ledger

theorem keeps_dormant (ledger : List (Processed V)) : Turns.Keeps (Dormant ledger) where
  resume {world task later} held ready := by
    have taken : Twins True (world.handOver later) (world.handOver later) :=
      { Kindred.refl (world.handOver later) with
        calls := rfl
        ready := fun _ => rfl
        leftBlank := held.blank
        rightBlank := held.blank }
    have idle : (world.handOver later).Undemanding := held.undemanding
    have blank : (world.handOver later).mailbox.IsBlank := held.blank
    exact ⟨(taken.resume idle task).leftBlank, idle.resume task,
      (ledger_resume blank task).trans held.ledger⟩
  reach instant held := ⟨held.blank, held.undemanding, held.ledger⟩

/-! ## Between two steps -/

/-- Nobody has asked anything of a scene about to start. -/
structure Unbegun (session : Session V) : Prop where
  backend : session.backend = .fresh
  ready : session.agenda.ready = [.backend]
  calls : session.calls = []
  clock : session.clock = {}

/-- A scene between two steps of its users, of which only docile things were asked. -/
structure Poised (limits : TimeoutKind → Option Span) (session : Session V) : Prop where
  orderly : session.Orderly
  alert : Alert limits session
  requests : ∀ request ∈ session.requests, request.isDocile = true
  issued : session.InIssueOrder
  pause : Turns.turn? session = none ∨ session.Unbegun

namespace Poised

theorem current (poised : session.Poised limits) : session.clock.isBehind = false := by
  rcases poised.pause with rests | unbegun
  · exact (Turns.idle_of_rest rests).2
  · rw [unbegun.clock]
    rfl

/-- At most a backend that has not had its first turn is ready. -/
theorem ready (poised : session.Poised limits) :
    session.agenda.ready = [] ∨ session.agenda.ready = [.backend] ∧ session.backend = .fresh :=
  poised.pause.imp (fun rests => (Turns.idle_of_rest rests).1)
    fun unbegun => ⟨unbegun.ready, unbegun.backend⟩

theorem not_ready (poised : session.Poised limits) (id : Nat) :
    .call id ∉ session.agenda.ready := by
  rcases poised.ready with ready | ⟨ready, -⟩ <;> simp [ready]

/-- Who is unfinished at rest waits for the end or for a signal. -/
theorem undemanding (poised : session.Poised limits) : session.Undemanding := by
  have passed := poised.orderly.reachable.passed
  rcases poised.pause with rests | unbegun
  case inr =>
    right
    rw [unbegun.calls]
    exact List.forall_mem_nil _
  cases runs : session.backendRuns with
  | false => exact .inl (passed.chronicle.stopped runs).1
  | true =>
      have present := (passed.steered.running runs).2.2.1
      have quiescent :=
        (atRest_of_idle (Turns.idle_of_rest rests).1).quiescent poised.orderly.reachable
        present
      refine .inr fun call member => ?_
      obtain ⟨id, found⟩ := List.mem_iff_getElem?.mp member
      cases unfinished : call.isUnfinished with
      | false =>
          obtain ⟨settled, unsought⟩ := Call.not_newcomer_of_finished unfinished
          rw [call.submits_eq, settled, unsought]
          rfl
      | true =>
          unfold Call.submits
          cases (quiescent.unfinished id call found unfinished).2 with
          | theEnd asks waits => rw [waits]
          | aSignal asks waits silent listed => rw [waits]

/-- A poised scene in which the backend runs is assembled. -/
theorem assembled (poised : session.Poised limits) (blank : session.mailbox.IsBlank)
    (runs : session.backendRuns = true) : session.Assembled := by
  have passed := poised.orderly.reachable.passed
  have unclosed := (passed.chronicle.running runs).1
  have idle : ∀ call ∈ session.calls, call.submits = false :=
    poised.undemanding.resolve_left fun closed => by
      rw [unclosed] at closed
      cases closed
  have nobody (tasks : List SceneTask) : session.newcomers tasks = [] := by
    refine callersAmong_eq_nil fun id _ => ?_
    cases found : session.calls[id]? with
    | none => rfl
    | some call =>
        have still := idle call (List.mem_of_getElem? found)
        rw [call.submits_eq, Bool.or_eq_false_iff] at still
        exact still.1
  constructor
  case current => exact poised.current
  case undue =>
    cases due : session.dueDeadline? with
    | none => rfl
    | some deadline =>
        obtain ⟨instant, armed, lapsed, -⟩ := dueDeadline?_some due
        rcases poised.ready with ready | ⟨-, fresh⟩
        · have awake := poised.alert.awake (.inr ⟨_, instant, armed, lapsed⟩)
          rw [ready] at awake
          cases awake
        · unfold armed? at armed
          rw [fresh] at armed
          cases armed
  case early =>
    intro id call due found waits
    by_contra late
    exact poised.not_ready id (poised.orderly.reachable.alarmed id call due found waits
      (Nat.not_lt.mp late) (by simp))
  case once =>
    rcases poised.ready with ready | ⟨ready, -⟩ <;> simp [ready]
  case known => exact fun id member => absurd member (poised.not_ready id)
  case blank => exact blank
  case unsought =>
    intro id call found
    have still := idle call (List.mem_of_getElem? found)
    rw [call.submits_eq, Bool.or_eq_false_iff] at still
    exact still.2
  case front => exact fun front _ _ => nobody front
  case issued =>
    unfold Issued
    rw [line_of_blank blank, nobody, List.append_nil]
    exact poised.issued

/-- A step leads to a poised scene, if it processes the commands in their order. -/
theorem perform (poised : session.Poised limits) {step : Step V} (docile : step.isDocile = true)
    (issued : (session.perform step).InIssueOrder) : (session.perform step).Poised limits where
  orderly := (leads_perform session step).orderly poised.orderly
  alert := (poised.alert.perform step).1
  requests := by
    cases step with
    | deeds deeds =>
        have kept := (keeps_requests (session.actAll deeds).requests).settle
          (show (session.actAll deeds).requests = _ from rfl)
        exact kept.symm ▸ docile_actAll docile poised.requests
    | elapse length =>
        have kept := (keeps_requests session.requests).elapse length
          (show session.requests = _ from rfl)
        exact kept.symm ▸ poised.requests
  issued := issued
  pause := .inl (poised.orderly.rests_perform step)

end Poised

end Session

end BoundedScene
