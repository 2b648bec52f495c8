import BoundedScene.Proofs.Growth.Steps
import Mathlib.Logic.Relation

/-!
Contract: the runs of a scene.

Owns:
- `Move`, what the world can do with a scene in any order, and `Reachable`;
- the small steps that every move is made of;
- `Leads`, from one scene to another by some moves;
- `Passed`, the scenes along a run, one small step at a time.

A move hands the turn to any task whatsoever, ready or not, so the reachable scenes
cover every schedule.  What the users' steps do, some moves do.

Does not own: what holds along a run.
-/

namespace BoundedScene

namespace Session

variable {V : Type}

/-! ## Moves -/

/-- A move of the world around a scene. -/
inductive Move (V : Type) where
  | act (deed : Deed V)
  /-- A task takes its turn. -/
  | resume (task : SceneTask)
  /-- The backend serves for a while; its turn is cut short and it gets another one. -/
  | serve (commands : Nat)
  /-- The clock moves on and alarms go off. -/
  | reach (instant : Nat)

/-- A task that takes its turn is not ready any more. -/
def dequeue (session : Session V) (task : SceneTask) : Session V :=
  { session with agenda := { session.agenda with ready := session.agenda.ready.erase task } }

def move (session : Session V) : Move V → Session V
  | .act deed => session.act deed
  | .resume task => resume task (session.dequeue task)
  | .serve commands =>
      match session.backend with
      | .serving _ _ => (session.serve commands).wakeAll [.backend]
      | _ => session
  | .reach instant => Turns.reach instant session

/-- The scenes that some run leads to. -/
inductive Reachable : Session V → Prop where
  | created {settings : Settings} {profiles : List Profile} {visiting : VisitingOrder V}
      {session : Session V} (created : create? settings profiles visiting = some session) :
      Reachable session
  | moved {session : Session V} (move : Move V) (reachable : Reachable session) :
      Reachable (session.move move)

/-! ## Moves as small steps -/

/-- Any number of small steps. -/
abbrev Advances : Session V → Session V → Prop :=
  Relation.ReflTransGen Advance

theorem Advance.single {before after : Session V} (step : Advance before after) :
    Advances before after :=
  .single step

/-- The backend does the first of these that applies: it ends on request, it ends at a
deadline, it processes a command, it ends for want of handles. -/
theorem serve_eq (commands : Nat) (session : Session V) :
    session.serve commands =
      if session.control.stopRequested then session.finish none
      else
        match session.dueDeadline?, session.mailbox.take?, commands with
        | some (kind, after), _, _ => session.timeOut kind after
        | none, some (envelope, rest), commands + 1 =>
            (session.serveOne envelope rest).serve commands
        | none, some _, 0 => session
        | none, none, _ =>
            if session.anyHandle then session else (session.conclude none).finish none := by
  rw [serve.eq_def]
  dsimp only
  rw [show session.takeCommand? = session.mailbox.take?.map fun taken =>
    (taken.1, ({ session with mailbox := taken.2.1 }).wakeAll
      (taken.2.2.toList.map SceneTask.call)) from rfl]
  split
  · rfl
  · cases session.dueDeadline? with
    | some deadline => rfl
    | none =>
        cases session.mailbox.take? with
        | none => cases commands <;> rfl
        | some taken => cases commands <;> rfl

/-- What each served command and each end keeps, a serving backend keeps. -/
theorem serve_induction (holds : Session V → Prop)
    (serves : ∀ {session : Session V} {envelope : Envelope V}
      {rest : Mailbox (Envelope V) × Option Nat}, holds session → session.isServing →
      session.control.stopRequested = false → session.dueDeadline? = none →
      session.mailbox.take? = some (envelope, rest) → holds (session.serveOne envelope rest))
    (ends : ∀ {session after : Session V} {log : List (Happening V)} {heralds : List Event}
      {error : Option SceneError}, holds session → session.isServing →
      EndCause session log heralds error after → holds after)
    (commands : Nat) {session : Session V} (serving : session.isServing) (held : holds session) :
    holds (session.serve commands) := by
  induction commands using Nat.strongRecOn generalizing session with
  | ind commands inductionHypothesis =>
      rw [serve_eq]
      split
      case isTrue stopped => exact ends held serving (.stopped stopped)
      case isFalse unstopped =>
        rw [Bool.not_eq_true] at unstopped
        split
        case h_1 due => exact ends held serving (.timedOut unstopped due)
        case h_2 later undue taken =>
          exact inductionHypothesis later (Nat.lt_succ_self later)
            (serveOne_isServing serving _ _) (serves held serving unstopped undue taken)
        case h_3 => exact held
        case h_4 undue idle =>
          split
          · exact held
          case isFalse unheld =>
            exact ends held serving (.abandoned unstopped undue idle (by simpa using unheld))

theorem serve_advances (commands : Nat) (session : Session V) (serving : session.isServing) :
    Advances session (session.serve commands) :=
  serve_induction (Advances session)
    (fun held serving unstopped undue taken =>
      held.tail (.processes serving unstopped undue taken))
    (fun held serving cause => held.tail (.ends serving cause)) commands serving .refl

theorem resumeBackend_advances (session : Session V) :
    Advances session session.resumeBackend := by
  unfold resumeBackend
  split
  case h_1 fresh =>
    have opened := (Advance.opens fresh).single
    exact opened.trans (serve_advances _ _ ⟨_, _, rfl⟩)
  case h_2 absolute inactivity serving =>
    exact serve_advances _ _ ⟨absolute, inactivity, serving⟩
  case h_3 => exact .refl

theorem resumeCall_advances (id : Nat) (session : Session V) :
    Advances session (session.resumeCall id) := by
  cases found : session.calls[id]? with
  | none =>
      have still : session.resumeCall id = session := by
        unfold resumeCall
        rw [found]
      rw [still]
  | some call => exact (Advance.turns found).single

theorem resume_advances (task : SceneTask) (session : Session V) :
    Advances session (resume task session) := by
  cases task with
  | backend => exact session.resumeBackend_advances
  | call id => exact resumeCall_advances id session
  | delivery task => exact (Advance.drifts (session.resumeDelivery_evolves task)).single

theorem act_advances (session : Session V) (deed : Deed V) :
    Advances session (session.act deed) := by
  cases deed with
  | call request => exact (Advance.makes request).single
  | cancel id =>
      cases found : session.calls[id]? with
      | none =>
          have still : session.cancel id = session := by
            unfold cancel
            rw [found]
          simpa only [act, still] using Relation.ReflTransGen.refl
      | some call =>
          cases unfinished : call.isUnfinished with
          | true => exact (Advance.cancels found unfinished).single
          | false =>
              have still : session.cancel id = session := by
                unfold cancel
                rw [found]
                simp [unfinished]
              simpa only [act, still] using Relation.ReflTransGen.refl
  | clone => exact (Advance.drifts (Evolves.refl _)).single
  | drop handle => exact (Advance.drifts (noteHandles_evolves _)).single
  | release lane count => exact (Advance.drifts (session.release_evolves lane count)).single
  | dropTasks => exact Advance.loses.single

theorem reach_advances (instant : Nat) (session : Session V) :
    Advances session (Turns.reach instant session) :=
  (Advance.drifts (wakeAll_evolves _ _)).single

theorem move_advances (session : Session V) (move : Move V) :
    Advances session (session.move move) := by
  cases move with
  | act deed => exact session.act_advances deed
  | resume task =>
      have dequeued : Advance session (session.dequeue task) := .drifts (Evolves.refl _)
      exact dequeued.single.trans (resume_advances task _)
  | serve commands =>
      unfold Session.move
      dsimp only
      split
      case h_1 absolute inactivity serving =>
        have woken : Advance (session.serve commands)
            ((session.serve commands).wakeAll [.backend]) := .drifts (wakeAll_evolves _ _)
        exact (session.serve_advances commands ⟨absolute, inactivity, serving⟩).trans woken.single
      case h_2 => exact .refl
  | reach instant => exact session.reach_advances instant

/-! ## Induction along a run -/

/-- A scene that was just created. -/
structure IsInitial (session : Session V) : Prop where
  control : session.control = {}
  phase : session.phase = .active
  mailbox : ∃ capacity, 0 < capacity ∧ session.mailbox = { capacity }
  props : session.props = {}
  subscriptions : session.subscriptions = {}
  backend : session.backend = .fresh
  calls : session.calls = []
  journal : session.journal = []
  events : session.backendEvents = []
  ready : .backend ∈ session.agenda.ready
  delivery : ∃ profiles, session.delivery.IsFresh profiles

theorem isFresh_of_create? {settings : Settings} {profiles : List Profile}
    {visiting : VisitingOrder V} {session : Session V}
    (created : create? settings profiles visiting = some session) :
    session.delivery.IsFresh profiles := by
  unfold create? at created
  split at created
  case isFalse => cases created
  case isTrue =>
    obtain ⟨feed, fed, rfl⟩ := Option.map_eq_some_iff.mp created
    refine ⟨rfl, Bus.published_of_create? fed, rfl, fun finished => ?_⟩
    cases profiles with
    | nil => rfl
    | cons => cases finished

theorem isInitial_of_create? {settings : Settings} {profiles : List Profile}
    {visiting : VisitingOrder V} {session : Session V}
    (created : create? settings profiles visiting = some session) : session.IsInitial := by
  have fresh := isFresh_of_create? created
  unfold create? at created
  split at created
  case isFalse => cases created
  case isTrue =>
    obtain ⟨feed, fed, rfl⟩ := Option.map_eq_some_iff.mp created
    have unpublished : feed.published = [] := fresh.published
    constructor
    case delivery => exact ⟨profiles, fresh⟩
    case mailbox => exact ⟨settings.commandSlots, Nat.le_max_right _ _, rfl⟩
    case events => simp [backendEvents, Delivery.backendEvents, unpublished]
    case ready => simp
    all_goals rfl

/-- The scenes that some run passes through, those in the middle of a move included. -/
inductive Passed : Session V → Prop where
  | initial {session : Session V} (initial : session.IsInitial) : Passed session
  | advance {before after : Session V} (passed : Passed before) (step : Advance before after) :
      Passed after

theorem Passed.advances {before after : Session V} (passed : Passed before)
    (run : Advances before after) : Passed after := by
  induction run with
  | refl => exact passed
  | tail _ last inductionHypothesis => exact inductionHypothesis.advance last

theorem Reachable.passed {session : Session V} (reachable : Reachable session) :
    Passed session := by
  induction reachable with
  | created created => exact .initial (isInitial_of_create? created)
  | @moved session move _ inductionHypothesis =>
      exact inductionHypothesis.advances (session.move_advances move)

/-! ## Schedules -/

/-- Make moves in order. -/
def moves (session : Session V) (schedule : List (Move V)) : Session V :=
  schedule.foldl move session

theorem moves_append (session : Session V) (first second : List (Move V)) :
    session.moves (first ++ second) = (session.moves first).moves second :=
  List.foldl_append ..

theorem moves_concat (session : Session V) (schedule : List (Move V)) (move : Move V) :
    session.moves (schedule ++ [move]) = (session.moves schedule).move move :=
  List.foldl_concat ..

theorem Reachable.moves {session : Session V} (reachable : Reachable session)
    (schedule : List (Move V)) : Reachable (session.moves schedule) := by
  unfold Session.moves
  induction schedule generalizing session with
  | nil => exact reachable
  | cons first rest inductionHypothesis => exact inductionHypothesis (reachable.moved first)

theorem moves_advances (session : Session V) (schedule : List (Move V)) :
    Advances session (session.moves schedule) := by
  unfold Session.moves
  induction schedule generalizing session with
  | nil => exact .refl
  | cons first rest inductionHypothesis =>
      exact (session.move_advances first).trans (inductionHypothesis (session.move first))

/-- A scene with the default settings and no subscribers. -/
def plain : Session V where
  agenda := { ready := [.backend] }
  visiting := .oldestFirst
  mailbox := { capacity := 1 }
  delivery := { feed := .ofCapacity 1024, lanes := [], courier := .finished }

theorem reachable_plain : Reachable (plain : Session V) :=
  .created (show create? {} [] = some plain from rfl)

/-! ## The steps of the users -/

/-- Some moves lead from one scene to another. -/
def Leads (session after : Session V) : Prop :=
  ∃ schedule, after = session.moves schedule

namespace Leads

variable {session middle after : Session V}

theorem refl (session : Session V) : Leads session session :=
  ⟨[], rfl⟩

theorem trans (first : Leads session middle) (second : Leads middle after) :
    Leads session after := by
  obtain ⟨early, rfl⟩ := first
  obtain ⟨late, rfl⟩ := second
  exact ⟨early ++ late, (moves_append ..).symm⟩

theorem single (session : Session V) (move : Move V) : Leads session (session.move move) :=
  ⟨[move], rfl⟩

theorem reachable (leads : Leads session after) (reachable : Reachable session) :
    Reachable after := by
  obtain ⟨schedule, rfl⟩ := leads
  exact reachable.moves schedule

end Leads

theorem keeps_leads (session : Session V) : Turns.Keeps (Leads session) where
  resume {world task later} leads ready := by
    have shorter : world.agenda.ready.erase task = later := by
      rw [show world.agenda.ready = task :: later from ready]
      exact List.erase_cons_head ..
    have dequeued : world.dequeue task
        = Turns.withAgenda world { Turns.agenda world with ready := later } := by
      unfold dequeue
      rw [shorter]
      rfl
    rw [← dequeued]
    exact leads.trans (.single world (.resume task))
  reach {world} instant leads := leads.trans (.single world (.reach instant))

theorem leads_perform (session : Session V) (step : Step V) :
    Leads session (session.perform step) := by
  have keeps := keeps_leads session
  cases step with
  | deeds deeds =>
      have acted : Leads session (session.actAll deeds) :=
        ⟨deeds.map .act, by rw [moves, List.foldl_map]; rfl⟩
      exact keeps.settle acted
  | elapse length => exact keeps.elapse length (.refl session)

/-- Whatever the users do to a scene, the run is among those considered here. -/
theorem leads_performAll (steps : List (Step V)) (session : Session V) :
    Leads session (session.performAll steps) := by
  unfold performAll
  induction steps generalizing session with
  | nil => exact .refl session
  | cons first rest inductionHypothesis =>
      exact (leads_perform session first).trans (inductionHypothesis (session.perform first))

theorem reachable_performAll (steps : List (Step V)) {session : Session V}
    (reachable : Reachable session) : Reachable (session.performAll steps) :=
  (leads_performAll steps session).reachable reachable

end Session

end BoundedScene
