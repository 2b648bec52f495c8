import BoundedScene.Proofs.Supervision.Steps

/-!
Contract: every supervised session comes to rest.

Owns:
- `pending`, the number of turns that suffice until every task waits;
- that no task lets time pass in its turn.

Main statement: `Reachable.settle_rests`.

Does not own: what the tasks wait for then.
-/

namespace BoundedScene.Supervision

def LoopTask.isRunning {Mark : Type} : LoopTask Mark → Bool
  | .running _ _ => true
  | _ => false

namespace Session

variable {Mark : Type} {before after session : Session Mark}

/-! ## The turns that suffice -/

/-- The ready tasks, and those that can still be woken: by a first request for a stop, by
the begin of the shutdown, by the result. -/
def pending (session : Session Mark) : Nat :=
  session.agenda.ready.length + (if session.control.stopRequested then 0 else 1)
    + (if session.control.ending then 0 else session.calls.length)
    + (if session.loop.isRunning then session.calls.length else 0)

theorem length_callTasks (session : Session Mark) (test : Call → Bool) :
    (session.callTasks test).length ≤ session.calls.length := by
  unfold callTasks
  rw [List.length_map]
  exact Nat.le_trans (List.length_filter_le ..) (Nat.le_of_eq List.length_range)

theorem length_endingWatchers (session : Session Mark) :
    session.endingWatchers.length ≤ if session.control.ending then 0 else session.calls.length := by
  unfold endingWatchers
  split
  · exact Nat.le_refl 0
  · exact session.length_callTasks _

theorem length_stopWatchers (session : Session Mark) :
    session.stopWatchers.length ≤ (if session.control.stopRequested then 0 else 1)
      + if session.control.ending then 0 else session.calls.length := by
  unfold stopWatchers
  rw [List.length_append]
  refine Nat.add_le_add ?_ session.length_endingWatchers
  split <;> simp

theorem pending_updateControl (session : Session Mark) (control : Control LoopError)
    (woken : List Task) :
    (session.updateControl control woken).pending
      ≤ session.agenda.ready.length + woken.length + (if control.stopRequested then 0 else 1)
        + (if control.ending then 0 else session.calls.length)
        + (if session.loop.isRunning then session.calls.length else 0) := by
  have longer := session.agenda.length_wakeAll woken
  exact Nat.add_le_add_right (Nat.add_le_add_right (Nat.add_le_add_right longer _) _) _

/-- Tasks are woken once for a request. -/
theorem pending_request {control : Control LoopError} (stop : control.stopRequested = true)
    (ending : control.ending = true) :
    (session.updateControl control session.stopWatchers).pending ≤ session.pending := by
  have bound := session.pending_updateControl control session.stopWatchers
  have few := session.length_stopWatchers
  rw [stop, ending, if_pos rfl, if_pos rfl] at bound
  unfold pending at bound ⊢
  omega

theorem Executes.pending {action : LoopAction Mark} (executes : Executes before action after) :
    after.pending ≤ before.pending := by
  cases executes with
  | conclude =>
      have bound := before.pending_updateControl before.control.conclude before.endingWatchers
      have few := before.length_endingWatchers
      rw [show before.control.conclude.ending = true from rfl, if_pos rfl,
        show before.control.conclude.stopRequested = before.control.stopRequested from rfl] at bound
      unfold Session.pending at bound ⊢
      omega
  | _ => exact Nat.le_refl _

theorem Runs.pending {done : List (LoopAction Mark)} (runs : Runs before done after) :
    after.pending ≤ before.pending := by
  induction runs with
  | nil => exact Nat.le_refl _
  | cons first _ inductionHypothesis => exact Nat.le_trans inductionHypothesis first.pending

/-- Tasks are woken once for the result, since the loop returns once. -/
theorem pending_finish (running : session.loop.isRunning = true)
    (own : Except LoopError Unit) : (session.finish own).pending ≤ session.pending := by
  -- Afterwards the shutdown has begun and the loop has returned.
  have bound : (session.finish own).pending
      ≤ session.agenda.ready.length + (session.endingWatchers ++ session.resultWatchers).length
        + (if session.control.stopRequested then 0 else 1) + 0 + 0 :=
    pending_updateControl _ _ _
  have watchers := session.length_endingWatchers
  have waiters : session.resultWatchers.length ≤ session.calls.length :=
    session.length_callTasks _
  rw [List.length_append] at bound
  unfold pending at bound ⊢
  rw [running, if_pos rfl]
  omega

theorem pending_resumeLoop (session : Session Mark) :
    session.resumeLoop.pending ≤ session.pending := by
  rcases session.resumeLoop_cases with ⟨same, -⟩ | ⟨done, rest, reached, alarm, at_, runs, turn⟩
  · exact Nat.le_of_eq (congrArg _ same)
  · refine Nat.le_trans ?_ runs.pending
    have running : reached.loop.isRunning = true := by rw [runs.spares.loop, at_]; rfl
    rcases turn with ⟨due, parked, -⟩ | ⟨finished, -⟩
    · rw [parked]
      unfold pending
      rw [running]
      exact Nat.le_refl _
    · rw [finished]
      exact pending_finish running _

theorem Turn.pending {id : Nat} {call : Call} (turn : before.Turn id call after) :
    after.pending ≤ before.pending := by
  have staged (session : Session Mark) (stage : Stage) :
      (session.setStage id stage).pending ≤ session.pending := by
    refine Nat.le_of_eq ?_
    unfold Session.pending setStage
    dsimp only
    rw [List.length_modify]
  cases turn with
  | stops => exact Nat.le_trans (staged ..) (pending_request rfl rfl)
  | kills => exact Nat.le_trans (staged ..) (pending_request rfl rfl)
  | waits => exact staged ..
  | watches => exact staged ..
  | looks => exact staged ..
  | ceased => exact Nat.le_refl _

theorem pending_resume (task : Task) (session : Session Mark) :
    (resume task session).pending ≤ session.pending := by
  cases task with
  | loop => exact session.pending_resumeLoop
  | call id =>
      show (session.resumeCall id).pending ≤ session.pending
      cases found : session.calls[id]? with
      | none => exact Nat.le_of_eq (congrArg _ (resumeCall_none found))
      | some call => exact (resumeCall_turn found).pending

/-! ## Rest -/

theorem clock_resume (task : Task) (session : Session Mark) :
    (resume task session).clock = session.clock := by
  cases task with
  | loop => exact session.resumeLoop_steady.clock
  | call id => exact (session.resumeCall_steady id).2.2

/-- No task lets time pass in its turn. -/
theorem Reachable.punctual {script : List (LoopAction Mark)}
    (reachable : Reachable script session) : session.clock.isBehind = false := by
  induction reachable with
  | started => exact decide_eq_false (by decide : ¬0 < 0 / Span.nanosecondsPerMillisecond)
  | @moved session move _ inductionHypothesis =>
      cases move with
      | act deed =>
          cases deed with
          | call => exact (congrArg Clock.isBehind (clock_wakeAll ..)).trans inductionHypothesis
          | permit => exact (congrArg Clock.isBehind (clock_wakeAll ..)).trans inductionHypothesis
          | cancel => exact inductionHypothesis
          | dropTasks => exact inductionHypothesis
      | resume task =>
          exact (congrArg Clock.isBehind (clock_resume task _)).trans inductionHypothesis
      | reach instant =>
          have caught : (Turns.reach instant session).clock = session.clock.reach instant :=
            Agenda.clock_wakeAll _ _
          show (Turns.reach instant session).clock.isBehind = false
          rw [caught]
          exact decide_eq_false (Nat.not_lt.mpr (Nat.le_max_right _ _))

theorem pending_dequeued {task : Task} {later : List Task}
    (ready : session.agenda.ready = task :: later) :
    (Turns.withAgenda session { Turns.agenda session with ready := later }).pending + 1
      = session.pending := by
  unfold pending
  rw [ready]
  show later.length + (if session.control.stopRequested then 0 else 1)
    + (if session.control.ending then 0 else session.calls.length)
    + (if session.loop.isRunning then session.calls.length else 0) + 1 = _
  rw [List.length_cons]
  omega

theorem run_rests {script : List (LoopAction Mark)} (turns : Nat)
    (reachable : Reachable script session) (enough : session.pending ≤ turns) :
    (Turns.run turns session).agenda.ready = [] := by
  induction turns generalizing session with
  | zero =>
      have none : session.agenda.ready.length = 0 := by
        unfold pending at enough
        omega
      exact List.length_eq_zero_iff.mp none
  | succ turns inductionHypothesis =>
      unfold Turns.run Turns.turn?
      cases ready : (Turns.agenda session).ready with
      | nil =>
          have punctual : (Turns.clock session).isBehind = false := reachable.punctual
          simp only [punctual]
          exact ready
      | cons task later =>
          have next := (keeps_reachable script).resume reachable ready
          have fewer := pending_resume task
            (Turns.withAgenda session { Turns.agenda session with ready := later })
          have dequeued := pending_dequeued ready
          exact inductionHypothesis next (Nat.le_trans fewer (by omega))

/-- The turns allowed suffice until every task waits. -/
theorem Reachable.settle_rests {script : List (LoopAction Mark)}
    (reachable : Reachable script session) : (Turns.settle session).agenda.ready = [] := by
  refine run_rests _ reachable ?_
  show session.pending ≤ session.allowance
  unfold pending allowance
  split <;> split <;> split <;> omega

end Session

end BoundedScene.Supervision
