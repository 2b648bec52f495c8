import BoundedScene.Proofs.Agenda
import BoundedScene.Supervision.Session
import Mathlib.Data.List.Forall2

/-!
Contract: what the tasks of a supervised loop do in their turns.

Owns:
- `Executes`, one action of the loop, and `Runs`, several of them;
- what the rest of a script comes to, and what each action leaves in the log;
- the turn of the loop: some actions, then it waits or returns;
- `Turn`, what the turn of a call amounts to;
- `Move`, what can happen in any order.

Main statement: `proceed_runs`.

Does not own: what holds along a run.
-/

namespace BoundedScene.Supervision

variable {Mark : Type}

/-! ## Scripts -/

namespace LoopAction

/-- The function returns here. -/
def isFinal : LoopAction Mark → Bool
  | .succeed => true
  | .fail _ => true
  | .panic _ => true
  | _ => false

/-- What the function returns whose remaining actions are given.  A panic is caught and
stands for an error that carries its message. -/
def ownResult : List (LoopAction Mark) → Except LoopError Unit
  | [] => .ok ()
  | .succeed :: _ => .ok ()
  | .fail message :: _ => .error (.failed message)
  | .panic payload :: _ => .error (.abandoned ⟨payload.describe⟩)
  | _ :: rest => ownResult rest

/-- The function has nothing left to do but to return. -/
def isOver (remaining : List (LoopAction Mark)) : Prop :=
  ∀ action, remaining.head? = some action → action.isFinal = true

/-- What an action can leave in the log. -/
inductive Leaves : LoopAction Mark → List (LogEntry Mark) → Prop where
  | stopped : Leaves .stopped []
  | sleep (length : Span) : Leaves (.sleep length) []
  | stoppedFirst (length : Span) : Leaves (.stoppedOrSleep length) [.stopped]
  | sleptFirst (length : Span) : Leaves (.stoppedOrSleep length) [.slept]
  | gate : Leaves .gate []
  | conclude : Leaves .conclude []
  | isStopping (requested : Bool) : Leaves .isStopping [.stopping requested]
  | mark (mark : Mark) : Leaves (.mark mark) [.mark mark]

theorem Leaves.unfinal {action : LoopAction Mark} {entries : List (LogEntry Mark)}
    (leaves : Leaves action entries) : action.isFinal = false := by
  cases leaves <;> rfl

theorem unfinal_of_leaves {done : List (LoopAction Mark)} {pieces : List (List (LogEntry Mark))}
    (leaves : List.Forall₂ Leaves done pieces) : ∀ action ∈ done, action.isFinal = false := by
  induction leaves with
  | nil => exact List.forall_mem_nil _
  | cons head _ inductionHypothesis =>
      exact List.forall_mem_cons.mpr ⟨head.unfinal, inductionHypothesis⟩

/-- Actions before the return do not count for what the function returns. -/
theorem ownResult_append {done rest : List (LoopAction Mark)}
    (unfinal : ∀ action ∈ done, action.isFinal = false) :
    ownResult (done ++ rest) = ownResult rest := by
  induction done with
  | nil => rfl
  | cons first later inductionHypothesis =>
      have tail := inductionHypothesis fun action member =>
        unfinal action (List.mem_cons_of_mem _ member)
      have head := unfinal first (List.mem_cons_self ..)
      cases first <;> first | exact tail | cases head

end LoopAction

namespace Session

/-! ## Actions -/

/-- The loop executes one action that is not its last. -/
inductive Executes (before : Session Mark) : LoopAction Mark → Session Mark → Prop where
  | stopped (requested : before.control.stopRequested = true) : Executes before .stopped before
  | sleep (length : Span) : Executes before (.sleep length) before
  | stoppedFirst (length : Span) (requested : before.control.stopRequested = true) :
      Executes before (.stoppedOrSleep length) (before.record .stopped)
  | sleptFirst (length : Span) (unrequested : before.control.stopRequested = false) :
      Executes before (.stoppedOrSleep length) (before.record .slept)
  | gate (permitted : 0 < before.permits) :
      Executes before .gate { before with permits := before.permits - 1 }
  | conclude :
      Executes before .conclude
        (before.updateControl before.control.conclude before.endingWatchers)
  | isStopping :
      Executes before .isStopping (before.record (.stopping before.control.stopRequested))
  | mark (mark : Mark) : Executes before (.mark mark) (before.record (.mark mark))

/-- The loop executes some actions one after the other. -/
inductive Runs : Session Mark → List (LoopAction Mark) → Session Mark → Prop where
  | nil (session : Session Mark) : Runs session [] session
  | cons {before middle after : Session Mark} {action : LoopAction Mark}
      {later : List (LoopAction Mark)} (first : Executes before action middle)
      (rest : Runs middle later after) : Runs before (action :: later) after

/-- The loop waits at the first of its remaining actions for something that is not there:
a stop request, a millisecond that is not due, a permit. -/
def Waits (session : Session Mark) (remaining : List (LoopAction Mark)) (alarm : Option Nat) :
    Prop :=
  match remaining, alarm with
  | .stopped :: _, none => session.control.stopRequested = false
  | .sleep _ :: _, some due => session.clock.isDue due = false
  | .stoppedOrSleep _ :: _, some due =>
      session.control.stopRequested = false ∧ session.clock.isDue due = false
  | .gate :: _, none => session.permits = 0
  | _, _ => False

/-- The loop waits as long as what it waits for does not come. -/
theorem Waits.mono {before after : Session Mark} {remaining : List (LoopAction Mark)}
    {alarm : Option Nat} (waits : before.Waits remaining alarm)
    (stop : before.control.stopRequested = false → after.control.stopRequested = false)
    (clock : ∀ due, alarm = some due → before.clock.isDue due = false →
      after.clock.isDue due = false)
    (permits : before.permits = 0 → after.permits = 0) : after.Waits remaining alarm := by
  unfold Waits at waits ⊢
  split at waits
  case h_1 => exact stop waits
  case h_2 due => exact clock due rfl waits
  case h_3 due => exact ⟨stop waits.1, clock due rfl waits.2⟩
  case h_4 => exact permits waits
  case h_5 => exact waits.elim

/-- At its first remaining action the loop goes on, waits, or returns. -/
theorem proceed_cons (action : LoopAction Mark) (rest : List (LoopAction Mark))
    (alarm : Option Nat) (session : Session Mark) :
    (∃ next, session.Executes action next
        ∧ proceed (action :: rest) alarm session = proceed rest none next)
      ∨ (∃ due, proceed (action :: rest) alarm session = session.park (action :: rest) due
        ∧ session.Waits (action :: rest) due)
      ∨ (proceed (action :: rest) alarm session
          = session.finish (LoopAction.ownResult (action :: rest))
        ∧ action.isFinal = true) := by
  cases action with
  | stopped =>
      cases requested : session.control.stopRequested with
      | true => exact .inl ⟨session, .stopped requested, by simp [proceed, requested]⟩
      | false => exact .inr (.inl ⟨none, by simp [proceed, requested], requested⟩)
  | sleep length =>
      cases lapsed : session.clock.isDue (alarm.getD (session.clock.deadline length)) with
      | true => exact .inl ⟨session, .sleep length, by simp [proceed, lapsed]⟩
      | false => exact .inr (.inl ⟨some _, by simp [proceed, lapsed], lapsed⟩)
  | stoppedOrSleep length =>
      cases requested : session.control.stopRequested with
      | true => exact .inl ⟨_, .stoppedFirst length requested, by simp [proceed, requested]⟩
      | false =>
          cases lapsed : session.clock.isDue (alarm.getD (session.clock.deadline length)) with
          | true =>
              exact .inl ⟨_, .sleptFirst length requested, by simp [proceed, requested, lapsed]⟩
          | false =>
              exact .inr (.inl ⟨some _, by simp [proceed, requested, lapsed], requested, lapsed⟩)
  | gate =>
      rcases Nat.eq_zero_or_pos session.permits with shut | permitted
      · exact .inr (.inl ⟨none, by simp [proceed, shut], shut⟩)
      · exact .inl ⟨_, .gate permitted, by simp [proceed, permitted]⟩
  | conclude => exact .inl ⟨_, .conclude, rfl⟩
  | isStopping => exact .inl ⟨_, .isStopping, rfl⟩
  | mark mark => exact .inl ⟨_, .mark mark, rfl⟩
  | succeed => exact .inr (.inr ⟨rfl, rfl⟩)
  | fail message => exact .inr (.inr ⟨rfl, rfl⟩)
  | panic payload => exact .inr (.inr ⟨rfl, rfl⟩)

/-- In its turn the loop executes some of its actions; then it waits, or it returns what
the rest of its script comes to. -/
theorem proceed_runs (remaining : List (LoopAction Mark)) (alarm : Option Nat)
    (session : Session Mark) :
    ∃ done rest reached, remaining = done ++ rest ∧ Runs session done reached
      ∧ ((∃ due, proceed remaining alarm session = reached.park rest due
          ∧ reached.Waits rest due)
        ∨ (proceed remaining alarm session = reached.finish (LoopAction.ownResult rest)
          ∧ LoopAction.isOver rest)) := by
  induction remaining generalizing alarm session with
  | nil => exact ⟨[], [], session, rfl, .nil session, .inr ⟨rfl, nofun⟩⟩
  | cons action later inductionHypothesis =>
      rcases proceed_cons action later alarm session with
        ⟨next, executes, same⟩ | ⟨due, parked, waits⟩ | ⟨finished, final⟩
      · obtain ⟨done, rest, reached, rfl, runs, turn⟩ := inductionHypothesis none next
        exact ⟨action :: done, rest, reached, rfl, .cons executes runs, same ▸ turn⟩
      · exact ⟨[], action :: later, session, rfl, .nil session, .inl ⟨due, parked, waits⟩⟩
      · refine ⟨[], action :: later, session, rfl, .nil session, .inr ⟨finished, ?_⟩⟩
        rintro _ ⟨⟩
        exact final

/-! ## What actions come to -/

theorem Executes.leaves {before after : Session Mark} {action : LoopAction Mark}
    (executes : Executes before action after) :
    ∃ entries, LoopAction.Leaves action entries ∧ after.log = before.log ++ entries := by
  cases executes with
  | stopped => exact ⟨[], .stopped, (List.append_nil _).symm⟩
  | sleep length => exact ⟨[], .sleep length, (List.append_nil _).symm⟩
  | stoppedFirst length => exact ⟨_, .stoppedFirst length, rfl⟩
  | sleptFirst length => exact ⟨_, .sleptFirst length, rfl⟩
  | gate => exact ⟨[], .gate, (List.append_nil _).symm⟩
  | conclude => exact ⟨[], .conclude, (List.append_nil _).symm⟩
  | isStopping => exact ⟨_, .isStopping _, rfl⟩
  | mark mark => exact ⟨_, .mark mark, rfl⟩

theorem Runs.leaves {before after : Session Mark} {done : List (LoopAction Mark)}
    (runs : Runs before done after) :
    ∃ pieces, List.Forall₂ LoopAction.Leaves done pieces
      ∧ after.log = before.log ++ pieces.flatten := by
  induction runs with
  | nil session => exact ⟨[], .nil, (List.append_nil _).symm⟩
  | cons first rest inductionHypothesis =>
      obtain ⟨entries, leaves, head⟩ := first.leaves
      obtain ⟨pieces, others, tail⟩ := inductionHypothesis
      refine ⟨entries :: pieces, .cons leaves others, ?_⟩
      rw [tail, head, List.append_assoc, List.flatten_cons]

@[simp] theorem clock_wakeAll (session : Session Mark) (tasks : List Task) :
    (session.wakeAll tasks).clock = session.clock :=
  Agenda.clock_wakeAll session.agenda tasks

@[simp] theorem clock_updateControl (session : Session Mark) (control : Control LoopError)
    (woken : List Task) : (session.updateControl control woken).clock = session.clock :=
  clock_wakeAll _ woken

/-- What the loop's actions cannot change; the announcement that the loop concludes is all
they do to the control surface. -/
structure Spares (done : List (LoopAction Mark)) (before after : Session Mark) : Prop where
  calls : after.calls = before.calls
  loop : after.loop = before.loop
  clock : after.clock = before.clock
  control : (.conclude ∉ done ∧ after.control = before.control)
    ∨ (.conclude ∈ done ∧ after.control = before.control.conclude)

namespace Spares

variable {before after : Session Mark} {done : List (LoopAction Mark)}

/-- A field of the control surface that the announcement does not touch. -/
theorem same {Field : Type} (spares : Spares done before after)
    (field : Control LoopError → Field)
    (untouched : field before.control.conclude = field before.control) :
    field after.control = field before.control := by
  rcases spares.control with ⟨-, same⟩ | ⟨-, same⟩
  · rw [same]
  · rw [same, untouched]

theorem outcome (spares : Spares done before after) :
    after.control.outcome = before.control.outcome :=
  spares.same Control.outcome rfl

theorem killed (spares : Spares done before after) :
    after.control.killed = before.control.killed :=
  spares.same Control.killed rfl

theorem lost (spares : Spares done before after) : after.control.lost = before.control.lost :=
  spares.same Control.lost rfl

end Spares

theorem Executes.spares {before after : Session Mark} {action : LoopAction Mark}
    (executes : Executes before action after) : Spares [action] before after := by
  cases executes with
  | conclude =>
      exact ⟨rfl, rfl, clock_updateControl _ _ _, .inr ⟨List.mem_cons_self .., rfl⟩⟩
  | _ => exact ⟨rfl, rfl, rfl, .inl ⟨by simp, rfl⟩⟩

theorem Spares.trans {before middle after : Session Mark} {early late : List (LoopAction Mark)}
    (first : Spares early before middle) (second : Spares late middle after) :
    Spares (early ++ late) before after where
  calls := second.calls.trans first.calls
  loop := second.loop.trans first.loop
  clock := second.clock.trans first.clock
  control := by
    rcases first.control with ⟨silent, same⟩ | ⟨announced, same⟩
    · rcases second.control with ⟨still, again⟩ | ⟨announced, again⟩
      · exact .inl ⟨by simp [silent, still], again.trans same⟩
      · exact .inr ⟨by simp [announced], by rw [again, same]⟩
    · rcases second.control with ⟨-, again⟩ | ⟨-, again⟩
      · exact .inr ⟨by simp [announced], by rw [again, same]⟩
      · exact .inr ⟨by simp [announced], by rw [again, same]; rfl⟩

theorem Runs.spares {before after : Session Mark} {done : List (LoopAction Mark)}
    (runs : Runs before done after) : Spares done before after := by
  induction runs with
  | nil session => exact ⟨rfl, rfl, rfl, .inl ⟨nofun, rfl⟩⟩
  | cons first rest inductionHypothesis => exact first.spares.trans inductionHypothesis

/-! ## The turn of the loop -/

/-- What the turn of the loop does: it executes some actions and waits, or it executes some
actions and stores a result. -/
theorem resumeLoop_cases (session : Session Mark) :
    (session.resumeLoop = session ∧ ∀ remaining alarm, session.loop ≠ .running remaining alarm)
      ∨ ∃ done rest reached alarm, session.loop = .running (done ++ rest) alarm
        ∧ Runs session done reached
        ∧ ((∃ due, session.resumeLoop = reached.park rest due ∧ reached.Waits rest due)
          ∨ (session.resumeLoop = reached.finish (LoopAction.ownResult rest)
            ∧ LoopAction.isOver rest)) := by
  unfold Session.resumeLoop
  split
  case h_1 remaining alarm running =>
    obtain ⟨done, rest, reached, rfl, runs, turn⟩ := proceed_runs remaining alarm session
    exact .inr ⟨done, rest, reached, alarm, running, runs, turn⟩
  case h_2 idle => exact .inl ⟨rfl, fun remaining alarm running => idle _ _ running⟩

/-- What no turn of the loop changes. -/
structure LoopSpares (before after : Session Mark) : Prop where
  calls : after.calls = before.calls
  clock : after.clock = before.clock
  lost : after.control.lost = before.control.lost
  stopRequested : after.control.stopRequested = before.control.stopRequested

/-- A turn of the loop leaves the calls alone, loses no task, never asks for a stop and takes no
time. -/
theorem resumeLoop_steady (session : Session Mark) : LoopSpares session session.resumeLoop := by
  rcases session.resumeLoop_cases with ⟨same, -⟩ | ⟨done, rest, reached, alarm, -, runs, turn⟩
  · rw [same]
    exact ⟨rfl, rfl, rfl, rfl⟩
  · have spares := runs.spares
    have unasked := spares.same Control.stopRequested rfl
    rcases turn with ⟨due, parked, -⟩ | ⟨finished, -⟩
    · rw [parked]
      exact ⟨spares.calls, spares.clock, spares.lost, unasked⟩
    · rw [finished]
      exact ⟨spares.calls, (clock_updateControl _ _ _).trans spares.clock, spares.lost, unasked⟩

/-! ## The turn of a call -/

/-- Where a call comes to that asks for the terminal result. -/
def resultStage (session : Session Mark) : Stage :=
  match session.control.result? (.abandoned Abandonment.dropped) with
  | some result => .finished (.result result) session.clock.millisecond
  | none => .awaitingResult

/-- Where a call comes to that waits until shutdown has begun. -/
def endingStage (session : Session Mark) : Stage :=
  if session.control.ending then .finished .ending session.clock.millisecond
  else .awaitingEnding

/-- A handle requested a stop. -/
def asked (session : Session Mark) : Session Mark :=
  session.updateControl session.control.requestStop session.stopWatchers

/-- A handle requested a stop and gave an error for the terminal one. -/
def struck (session : Session Mark) (message : String) : Session Mark :=
  session.updateControl (session.control.kill (.failed message)) session.stopWatchers

/-- What a call does in its turn. -/
inductive Turn (before : Session Mark) (id : Nat) (call : Call) : Session Mark → Prop where
  | stops (request : call.request = .stop) (fresh : call.stage = .fresh) :
      Turn before id call (before.asked.setStage id before.asked.resultStage)
  | kills {message : String} (request : call.request = .kill message)
      (fresh : call.stage = .fresh) :
      Turn before id call
        ((before.struck message).setStage id (.finished (.recorded before.control.acceptsKill)
          (before.struck message).clock.millisecond))
  | waits (asks : call.request = .wait ∧ call.stage = .fresh ∨ call.stage = .awaitingResult) :
      Turn before id call (before.setStage id before.resultStage)
  | watches (asks : call.request = .ending ∧ call.stage = .fresh
      ∨ call.stage = .awaitingEnding) :
      Turn before id call (before.setStage id before.endingStage)
  | looks (request : call.request = .look) (fresh : call.stage = .fresh) :
      Turn before id call
        (before.setStage id (.finished (.flags before.control.ending before.control.isFinished)
          before.clock.millisecond))
  | ceased (ceased : call.isUnfinished = false) : Turn before id call before

theorem awaitResult_eq (session : Session Mark) (id : Nat) :
    session.awaitResult id = session.setStage id session.resultStage := by
  unfold awaitResult resultStage
  cases session.control.result? (.abandoned Abandonment.dropped) <;> rfl

theorem awaitEnding_eq (session : Session Mark) (id : Nat) :
    session.awaitEnding id = session.setStage id session.endingStage := by
  unfold awaitEnding endingStage
  split <;> rfl

theorem resumeCall_turn {session : Session Mark} {id : Nat} {call : Call}
    (found : session.calls[id]? = some call) :
    session.Turn id call (session.resumeCall id) := by
  obtain ⟨request, stage⟩ := call
  unfold resumeCall
  rw [found]
  cases stage with
  | fresh =>
      cases request with
      | stop => exact awaitResult_eq session.asked id ▸ .stops rfl rfl
      | wait => exact awaitResult_eq session id ▸ .waits (.inl ⟨rfl, rfl⟩)
      | kill message => exact .kills rfl rfl
      | ending => exact awaitEnding_eq session id ▸ .watches (.inl ⟨rfl, rfl⟩)
      | look => exact .looks rfl rfl
  | awaitingResult => exact awaitResult_eq session id ▸ .waits (.inr rfl)
  | awaitingEnding => exact awaitEnding_eq session id ▸ .watches (.inr rfl)
  | finished answer millisecond => exact .ceased rfl
  | dropped => exact .ceased rfl

theorem resumeCall_none {session : Session Mark} {id : Nat}
    (missing : session.calls[id]? = none) : session.resumeCall id = session := by
  unfold resumeCall
  rw [missing]

/-- A turn of a call loses no task, stores no result and takes no time. -/
theorem resumeCall_steady (session : Session Mark) (id : Nat) :
    (session.resumeCall id).control.lost = session.control.lost
      ∧ (session.resumeCall id).control.outcome = session.control.outcome
      ∧ (session.resumeCall id).clock = session.clock := by
  cases found : session.calls[id]? with
  | none =>
      rw [resumeCall_none found]
      exact ⟨rfl, rfl, rfl⟩
  | some call =>
      have turn := resumeCall_turn found
      generalize session.resumeCall id = after at turn ⊢
      cases turn with
      | stops => exact ⟨rfl, rfl, clock_updateControl _ _ _⟩
      | kills => exact ⟨rfl, rfl, clock_updateControl _ _ _⟩
      | _ => exact ⟨rfl, rfl, rfl⟩

/-! ## Moves -/

/-- A move of the world around a session. -/
inductive Move where
  | act (deed : Deed)
  /-- A task takes its turn. -/
  | resume (task : Task)
  /-- The clock moves on and alarms go off. -/
  | reach (instant : Nat)

/-- A task that takes its turn is not ready any more. -/
def dequeue (session : Session Mark) (task : Task) : Session Mark :=
  { session with agenda := { session.agenda with ready := session.agenda.ready.erase task } }

def move (session : Session Mark) : Move → Session Mark
  | .act deed => session.act deed
  | .resume task => resume task (session.dequeue task)
  | .reach instant => Turns.reach instant session

def moves (session : Session Mark) (schedule : List Move) : Session Mark :=
  schedule.foldl move session

/-- The sessions that some run of a script leads to. -/
inductive Reachable (script : List (LoopAction Mark)) : Session Mark → Prop where
  | started : Reachable script (start script)
  | moved {session : Session Mark} (move : Move) (reachable : Reachable script session) :
      Reachable script (session.move move)

variable {script : List (LoopAction Mark)} {session : Session Mark}

theorem Reachable.moves (reachable : Reachable script session) (schedule : List Move) :
    Reachable script (session.moves schedule) := by
  unfold Session.moves
  induction schedule generalizing session with
  | nil => exact reachable
  | cons first rest inductionHypothesis => exact inductionHypothesis (reachable.moved first)

theorem keeps_reachable (script : List (LoopAction Mark)) :
    Turns.Keeps (Reachable script) where
  resume {session task later} reachable ready := by
    have shorter : session.agenda.ready.erase task = later := by
      rw [show session.agenda.ready = task :: later from ready]
      exact List.erase_cons_head ..
    have dequeued : session.dequeue task
        = Turns.withAgenda session { Turns.agenda session with ready := later } := by
      unfold dequeue
      rw [shorter]
      rfl
    rw [← dequeued]
    exact reachable.moved (.resume task)
  reach instant reachable := reachable.moved (.reach instant)

/-- Whatever the users do to a session, the run is among those considered here. -/
theorem Reachable.perform (reachable : Reachable script session) (step : Step) :
    Reachable script (session.perform step) := by
  cases step with
  | elapse length => exact (keeps_reachable script).elapse length reachable
  | deeds deeds =>
      have acted : Reachable script (deeds.foldl act session) := by
        induction deeds generalizing session with
        | nil => exact reachable
        | cons first rest inductionHypothesis =>
            exact inductionHypothesis (reachable.moved (.act first))
      exact (keeps_reachable script).settle acted

end Session

end BoundedScene.Supervision
