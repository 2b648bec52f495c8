import BoundedScene.Proofs.Supervision.Steps

/-!
Contract: what the flags of a supervised loop tell.

Owns:
- `stopAsked`, whether a handle asked for a stop in a run, and `executed`, what the function did
  in it;
- what a single move does to the request for a stop and to the begin of the end;
- that both flags are read off what has happened in the run.

Main statements: `stopRequested_iff`, `ending_iff` and `executed_whole`.

A request counts from the first turn of the call that makes it, whether or not that call is
given up later.

Does not own: what the calls learn of the flags.
-/

namespace BoundedScene.Supervision

variable {Mark : Type}

/-- The call asks for a stop when it begins. -/
def Request.asksStop : Request → Bool
  | .stop => true
  | .kill _ => true
  | _ => false

/-- The call has not had a turn. -/
def Call.isFresh (call : Call) : Bool :=
  match call.stage with
  | .fresh => true
  | _ => false

/-- Who has had a turn, or wants something else, asks for no stop. -/
theorem Call.asksNothing {call : Call}
    (calm : call.request.asksStop = false ∨ call.isFresh = false) :
    (call.isFresh && call.request.asksStop) = false := by
  rcases calm with other | begun
  · rw [other, Bool.and_false]
  · rw [begun, Bool.false_and]

/-- The actions that were executed while the loop went from one place to another. -/
def LoopTask.passed : LoopTask Mark → LoopTask Mark → List (LoopAction Mark)
  | .running remaining _, .running rest _ => remaining.take (remaining.length - rest.length)
  | .running remaining _, .returned => remaining.takeWhile fun action => !action.isFinal
  | _, _ => []

def LoopTask.hasReturned : LoopTask Mark → Bool
  | .returned => true
  | _ => false

namespace Session

/-! ## What has happened in a run -/

/-- In this move a handle asks for a stop, with an error or without one. -/
def asksStopIn (session : Session Mark) : Move → Bool
  | .resume (.call id) =>
      session.calls[id]?.any fun call => call.isFresh && call.request.asksStop
  | _ => false

/-- In a run some handle asks for a stop. -/
def stopAsked : Session Mark → List Move → Bool
  | _, [] => false
  | session, first :: later => session.asksStopIn first || (session.move first).stopAsked later

/-- The actions that the function executes in a run. -/
def executed : Session Mark → List Move → List (LoopAction Mark)
  | _, [] => []
  | session, first :: later =>
      session.loop.passed (session.move first).loop ++ (session.move first).executed later

variable {script : List (LoopAction Mark)} {before after session : Session Mark}

/-! ## The turn of the loop -/

/-- The actions done in a turn are those that lie between the places of the loop. -/
theorem passed_parked (done rest : List (LoopAction Mark)) (alarm due : Option Nat) :
    (LoopTask.running (done ++ rest) alarm).passed (.running rest due) = done := by
  simp [LoopTask.passed]

theorem passed_returned {done rest : List (LoopAction Mark)} (alarm : Option Nat)
    (unfinal : ∀ action ∈ done, action.isFinal = false) (ceased : LoopAction.isOver rest) :
    (LoopTask.running (done ++ rest) alarm).passed .returned = done := by
  show (done ++ rest).takeWhile (fun action => !action.isFinal) = done
  have stops : rest.takeWhile (fun action => !action.isFinal) = [] := by
    cases rest with
    | nil => rfl
    | cons action later =>
        exact List.takeWhile_cons_of_neg (by simp [ceased action rfl])
  rw [List.takeWhile_append_of_pos fun action member => by simp [unfinal action member], stops,
    List.append_nil]

theorem Runs.unfinal {done : List (LoopAction Mark)} (runs : Runs before done after) :
    ∀ action ∈ done, action.isFinal = false := by
  obtain ⟨_, leaves, -⟩ := runs.leaves
  exact LoopAction.unfinal_of_leaves leaves

/-- The turn of a loop begins the end if the function announces that it concludes, or
returns. -/
theorem ending_resumeLoop (session : Session Mark) :
    session.resumeLoop.control.ending = true ↔ session.control.ending = true
      ∨ .conclude ∈ session.loop.passed session.resumeLoop.loop
      ∨ (session.loop.hasReturned = false ∧ session.resumeLoop.loop.hasReturned = true) := by
  rcases session.resumeLoop_cases with ⟨same, idle⟩ | ⟨done, rest, reached, alarm, at_, runs, turn⟩
  · rw [same]
    have still : session.loop.passed session.loop = [] := by
      cases loop : session.loop with
      | running remaining alarm => exact absurd loop (idle remaining alarm)
      | _ => rfl
    simp [still]
  · have announced : reached.control.ending = true
        ↔ session.control.ending = true ∨ .conclude ∈ done := by
      rcases runs.spares.control with ⟨silent, same⟩ | ⟨spoken, same⟩
      · rw [same]
        exact ⟨.inl, fun either => either.resolve_right silent⟩
      · rw [same]
        exact ⟨fun _ => .inr spoken, fun _ => rfl⟩
    rcases turn with ⟨due, parked, -⟩ | ⟨finished, ceased⟩
    · rw [parked, at_]
      show reached.control.ending = true ↔ _ ∨ _ ∈ LoopTask.passed _ (.running rest due) ∨ _
      rw [announced, passed_parked]
      simp [LoopTask.hasReturned, park]
    · rw [finished, at_]
      show true = true ↔ _ ∨ _ ∨ (_ ∧ true = true)
      simp [LoopTask.hasReturned]

/-- A loop that is read whether a stop was requested logs what is the case. -/
theorem Runs.tells {done : List (LoopAction Mark)} (runs : Runs before done after) :
    ∃ entries, after.log = before.log ++ entries
      ∧ ∀ requested, .stopping requested ∈ entries → requested = before.control.stopRequested := by
  induction runs with
  | nil session => exact ⟨[], (List.append_nil _).symm, nofun⟩
  | @cons before middle after action later first rest inductionHypothesis =>
      obtain ⟨entries, longer, tells⟩ := inductionHypothesis
      have same : middle.control.stopRequested = before.control.stopRequested :=
        first.spares.same Control.stopRequested rfl
      have told : ∃ own, middle.log = before.log ++ own
          ∧ ∀ requested, .stopping requested ∈ own → requested = before.control.stopRequested := by
        cases first with
        | stopped => exact ⟨[], (List.append_nil _).symm, nofun⟩
        | sleep => exact ⟨[], (List.append_nil _).symm, nofun⟩
        | stoppedFirst => exact ⟨_, rfl, by simp⟩
        | sleptFirst => exact ⟨_, rfl, by simp⟩
        | gate => exact ⟨[], (List.append_nil _).symm, nofun⟩
        | conclude => exact ⟨[], (List.append_nil _).symm, nofun⟩
        | isStopping => exact ⟨_, rfl, by simp⟩
        | mark => exact ⟨_, rfl, by simp⟩
      obtain ⟨own, grown, ownTells⟩ := told
      refine ⟨own ++ entries, by rw [longer, grown, List.append_assoc], fun requested member => ?_⟩
      rcases List.mem_append.mp member with early | late
      · exact ownTells requested early
      · exact (tells requested late).trans same

/-! ## One move -/

/-- The turn of a call asks for a stop if it is the first of a stop or of a kill; nothing else
that a call does begins the end, and it stores no result. -/
theorem flags_resumeCall (session : Session Mark) (id : Nat) :
    ((session.resumeCall id).control.stopRequested
        = (session.control.stopRequested || session.asksStopIn (.resume (.call id))))
      ∧ ((session.resumeCall id).control.ending
        = (session.control.ending || session.asksStopIn (.resume (.call id))))
      ∧ (session.resumeCall id).loop = session.loop := by
  cases found : session.calls[id]? with
  | none =>
      rw [resumeCall_none found]
      simp [asksStopIn, found]
  | some call =>
      have asks : session.asksStopIn (.resume (.call id))
          = (call.isFresh && call.request.asksStop) := by simp [asksStopIn, found]
      have turn := resumeCall_turn found
      rw [asks]
      generalize session.resumeCall id = after at turn ⊢
      have quiet (calm : call.request.asksStop = false ∨ call.isFresh = false)
          (flag : Bool) : flag = (flag || (call.isFresh && call.request.asksStop)) := by
        rw [Call.asksNothing calm, Bool.or_false]
      cases turn with
      | stops asked fresh =>
          have asks : (call.isFresh && call.request.asksStop) = true := by
            simp [Call.isFresh, fresh, asked, Request.asksStop]
          rw [asks]
          exact ⟨(Bool.or_true _).symm, (Bool.or_true _).symm, rfl⟩
      | kills asked fresh =>
          have asks : (call.isFresh && call.request.asksStop) = true := by
            simp [Call.isFresh, fresh, asked, Request.asksStop]
          rw [asks]
          exact ⟨(Bool.or_true _).symm, (Bool.or_true _).symm, rfl⟩
      | waits asked =>
          have calm := quiet (asked.imp (fun begins => by rw [begins.1]; rfl)
            fun waiting => by simp [Call.isFresh, waiting])
          exact ⟨calm _, calm _, rfl⟩
      | watches asked =>
          have calm := quiet (asked.imp (fun begins => by rw [begins.1]; rfl)
            fun waiting => by simp [Call.isFresh, waiting])
          exact ⟨calm _, calm _, rfl⟩
      | looks asked =>
          have calm := quiet (.inl (by rw [asked]; rfl))
          exact ⟨calm _, calm _, rfl⟩
      | ceased ceased =>
          have begun : call.isFresh = false := by
            unfold Call.isFresh
            split
            case h_1 fresh => simp [fresh, Call.isUnfinished] at ceased
            case h_2 => rfl
          have calm := quiet (.inr begun)
          exact ⟨calm _, calm _, rfl⟩

theorem stopRequested_move (session : Session Mark) (move : Move) :
    (session.move move).control.stopRequested
      = (session.control.stopRequested || session.asksStopIn move) := by
  cases move with
  | reach instant => exact (Bool.or_false _).symm
  | act deed => cases deed <;> exact (Bool.or_false _).symm
  | resume task =>
      cases task with
      | loop =>
          exact (session.dequeue .loop).resumeLoop_steady.stopRequested.trans
            (Bool.or_false _).symm
      | call id => exact ((session.dequeue (.call id)).flags_resumeCall id).1

/-- A move begins the end if a handle asks for a stop in it, or the function announces that
it concludes, or it returns. -/
theorem ending_move (session : Session Mark) (move : Move) :
    (session.move move).control.ending = true ↔ session.control.ending = true
      ∨ session.asksStopIn move = true
      ∨ .conclude ∈ session.loop.passed (session.move move).loop
      ∨ (session.loop.hasReturned = false ∧ (session.move move).loop.hasReturned = true) := by
  have still (loop : LoopTask Mark) :
      .conclude ∉ loop.passed loop ∧ ¬(loop.hasReturned = false ∧ loop.hasReturned = true) := by
    constructor
    · cases loop <;> simp [LoopTask.passed]
    · rintro ⟨not, yes⟩
      cases not.symm.trans yes
  have quiet {next : Session Mark} (ending : next.control.ending = session.control.ending)
      (loop : next.loop = session.loop) : next.control.ending = true
        ↔ session.control.ending = true ∨ false = true
          ∨ .conclude ∈ session.loop.passed next.loop
          ∨ (session.loop.hasReturned = false ∧ next.loop.hasReturned = true) := by
    rw [ending, loop]
    simp [(still session.loop).1, (still session.loop).2]
  cases move with
  | reach instant => exact quiet rfl rfl
  | act deed =>
      cases deed with
      | dropTasks =>
          show session.control.ending = true ↔ _ ∨ false = true
            ∨ .conclude ∈ session.loop.passed session.dropTasks.loop
            ∨ (_ ∧ session.dropTasks.loop.hasReturned = true)
          cases loop : session.loop <;>
            simp [dropTasks, loop, LoopTask.passed, LoopTask.hasReturned]
      | _ => exact quiet rfl rfl
  | resume task =>
      cases task with
      | loop =>
          have turn := (session.dequeue .loop).ending_resumeLoop
          show (session.dequeue .loop).resumeLoop.control.ending = true ↔ _ ∨ false = true ∨ _
          rw [turn, Bool.false_eq_true, false_or]
          rfl
      | call id =>
          obtain ⟨-, ending, loop⟩ := (session.dequeue (.call id)).flags_resumeCall id
          have asks : (session.dequeue (.call id)).asksStopIn (.resume (.call id))
              = session.asksStopIn (.resume (.call id)) := rfl
          show ((session.dequeue (.call id)).resumeCall id).control.ending = true ↔ _ ∨ _
            ∨ _ ∈ session.loop.passed ((session.dequeue (.call id)).resumeCall id).loop
            ∨ (_ ∧ ((session.dequeue (.call id)).resumeCall id).loop.hasReturned = true)
          rw [ending, loop, asks, Bool.or_eq_true]
          have same : (session.dequeue (.call id)).loop = session.loop := rfl
          have control : (session.dequeue (.call id)).control = session.control := rfl
          rw [same, control]
          simp [(still session.loop).1, (still session.loop).2]

/-- A loop that has returned, or was lost, stays where it is. -/
theorem loop_move_of_ceased (ceased : session.loop = .returned ∨ session.loop = .lost)
    (move : Move) : (session.move move).loop = session.loop := by
  cases move with
  | reach instant => rfl
  | act deed =>
      cases deed with
      | dropTasks =>
          show session.dropTasks.loop = session.loop
          unfold dropTasks
          rcases ceased with loop | loop <;> rw [loop]
      | _ => rfl
  | resume task =>
      cases task with
      | call id => exact ((session.dequeue (.call id)).flags_resumeCall id).2.2
      | loop =>
          show (session.dequeue .loop).resumeLoop.loop = session.loop
          unfold Session.resumeLoop
          have same : (session.dequeue .loop).loop = session.loop := rfl
          rcases ceased with loop | loop <;> rw [same, loop] <;> exact loop

theorem hasReturned_iff (session : Session Mark) :
    session.loop.hasReturned = true ↔ session.loop = .returned := by
  cases session.loop <;> simp [LoopTask.hasReturned]

/-- What a move does to a loop that has not returned. -/
theorem passed_move {remaining : List (LoopAction Mark)} {alarm : Option Nat}
    (running : session.loop = .running remaining alarm) (move : Move) :
    ∃ rest, remaining = session.loop.passed (session.move move).loop ++ rest
      ∧ ((∃ due, (session.move move).loop = .running rest due)
        ∨ ((session.move move).loop = .returned ∧ LoopAction.isOver rest)
        ∨ (session.move move).loop = .lost) := by
  have stays {next : Session Mark} (same : next.loop = session.loop) :
      ∃ rest, remaining = session.loop.passed next.loop ++ rest
        ∧ ((∃ due, next.loop = .running rest due)
          ∨ (next.loop = .returned ∧ LoopAction.isOver rest) ∨ next.loop = .lost) := by
    refine ⟨remaining, ?_, .inl ⟨alarm, same.trans running⟩⟩
    rw [same, running]
    simp [LoopTask.passed]
  cases move with
  | reach instant => exact stays rfl
  | act deed =>
      cases deed with
      | dropTasks =>
          have lost : session.dropTasks.loop = .lost := by
            unfold dropTasks
            rw [running]
          refine ⟨remaining, ?_, .inr (.inr lost)⟩
          show remaining = session.loop.passed session.dropTasks.loop ++ remaining
          rw [lost, running]
          rfl
      | _ => exact stays rfl
  | resume task =>
      cases task with
      | call id => exact stays ((session.dequeue (.call id)).flags_resumeCall id).2.2
      | loop =>
          show ∃ rest,
            remaining = session.loop.passed (session.dequeue .loop).resumeLoop.loop ++ rest
            ∧ ((∃ due, (session.dequeue .loop).resumeLoop.loop = .running rest due)
              ∨ ((session.dequeue .loop).resumeLoop.loop = .returned ∧ LoopAction.isOver rest)
              ∨ (session.dequeue .loop).resumeLoop.loop = .lost)
          rcases (session.dequeue .loop).resumeLoop_cases with ⟨-, idle⟩
            | ⟨done, rest, reached, _, at_, runs, turn⟩
          · exact absurd running (idle remaining alarm)
          · have at_ : session.loop = .running (done ++ rest) _ := at_
            cases running.symm.trans at_
            refine ⟨rest, ?_⟩
            rcases turn with ⟨due, parked, -⟩ | ⟨finished, ceased⟩
            · rw [parked, running]
              show done ++ rest = LoopTask.passed _ (.running rest due) ++ rest ∧ _
              rw [passed_parked]
              exact ⟨rfl, .inl ⟨due, rfl⟩⟩
            · rw [finished, running]
              show done ++ rest = LoopTask.passed _ .returned ++ rest ∧ _
              rw [passed_returned alarm runs.unfinal ceased]
              exact ⟨rfl, .inr (.inl ⟨rfl, ceased⟩)⟩

/-! ## Runs -/

/-- A loop that has returned, or was lost, executes nothing more. -/
theorem executed_of_ceased (schedule : List Move)
    (ceased : session.loop = .returned ∨ session.loop = .lost) :
    session.executed schedule = [] ∧ (session.moves schedule).loop = session.loop := by
  unfold Session.moves
  induction schedule generalizing session with
  | nil => exact ⟨rfl, rfl⟩
  | cons first later inductionHypothesis =>
      have step := loop_move_of_ceased ceased first
      obtain ⟨nothing, still⟩ := @inductionHypothesis (session.move first) (by rwa [step])
      refine ⟨?_, still.trans step⟩
      rw [executed, nothing, step]
      rcases ceased with loop | loop <;> rw [loop] <;> rfl

/-- What the function has executed is its script up to where the loop is. -/
theorem executed_whole (schedule : List Move) {remaining : List (LoopAction Mark)}
    {alarm : Option Nat} (running : session.loop = .running remaining alarm) :
    ∃ rest, remaining = session.executed schedule ++ rest
      ∧ ((∃ due, (session.moves schedule).loop = .running rest due)
        ∨ ((session.moves schedule).loop = .returned ∧ LoopAction.isOver rest)
        ∨ (session.moves schedule).loop = .lost) := by
  induction schedule generalizing session remaining alarm with
  | nil => exact ⟨remaining, rfl, .inl ⟨alarm, running⟩⟩
  | cons first later inductionHypothesis =>
      obtain ⟨rest, whole, ⟨due, next⟩ | ⟨next, final⟩ | next⟩ := passed_move running first
      · obtain ⟨last, further, place⟩ := inductionHypothesis next
        refine ⟨last, ?_, place⟩
        rw [executed, List.append_assoc, ← further]
        exact whole
      · obtain ⟨nothing, still⟩ := executed_of_ceased later (.inl next)
        refine ⟨rest, ?_, .inr (.inl ⟨still.trans next, final⟩)⟩
        rw [executed, nothing, List.append_nil]
        exact whole
      · obtain ⟨nothing, still⟩ := executed_of_ceased later (.inr next)
        refine ⟨rest, ?_, .inr (.inr (still.trans next))⟩
        rw [executed, nothing, List.append_nil]
        exact whole

/-- A stop is requested when, and only when, some handle asked for one: the function itself
never sets this flag. -/
theorem stopRequested_iff (schedule : List Move) (session : Session Mark) :
    (session.moves schedule).control.stopRequested = true
      ↔ session.control.stopRequested = true ∨ session.stopAsked schedule = true := by
  unfold Session.moves
  induction schedule generalizing session with
  | nil => simp [stopAsked]
  | cons first later inductionHypothesis =>
      rw [List.foldl_cons, inductionHypothesis, stopRequested_move, stopAsked, Bool.or_eq_true,
        Bool.or_eq_true, or_assoc]

/-- The end has begun when, and only when, some handle asked for a stop, or the function
announced that it concludes, or it returned. -/
theorem ending_iff (schedule : List Move) (session : Session Mark)
    (begun : session.loop.hasReturned = true → session.control.ending = true) :
    (session.moves schedule).control.ending = true ↔ session.control.ending = true
      ∨ session.stopAsked schedule = true ∨ .conclude ∈ session.executed schedule
      ∨ (session.moves schedule).loop.hasReturned = true := by
  unfold Session.moves
  induction schedule generalizing session with
  | nil =>
      simp only [List.foldl_nil, stopAsked, executed, List.not_mem_nil, Bool.false_eq_true,
        false_or]
      exact ⟨.inl, fun either => either.elim id begun⟩
  | cons first later inductionHypothesis =>
      have step := session.ending_move first
      have still : (session.move first).loop.hasReturned = true →
          (session.move first).control.ending = true := by
        intro returned
        cases earlier : session.loop.hasReturned with
        | true => exact step.mpr (.inl (begun earlier))
        | false => exact step.mpr (.inr (.inr (.inr ⟨earlier, returned⟩)))
      have kept :
          (session.loop.hasReturned = false ∧ (session.move first).loop.hasReturned = true) →
            (later.foldl Session.move (session.move first)).loop.hasReturned = true := by
        rintro ⟨-, returned⟩
        have ceased := (hasReturned_iff _).mp returned
        exact (hasReturned_iff _).mpr ((executed_of_ceased later (.inl ceased)).2.trans ceased)
      rw [List.foldl_cons, inductionHypothesis _ still, step, stopAsked, executed, Bool.or_eq_true,
        List.mem_append]
      constructor
      · rintro ((begun | asked | announced | returned) | asked | announced | returned)
        · exact .inl begun
        · exact .inr (.inl (.inl asked))
        · exact .inr (.inr (.inl (.inl announced)))
        · exact .inr (.inr (.inr (kept returned)))
        · exact .inr (.inl (.inr asked))
        · exact .inr (.inr (.inl (.inr announced)))
        · exact .inr (.inr (.inr returned))
      · rintro (begun | (asked | asked) | (announced | announced) | returned)
        · exact .inl (.inl begun)
        · exact .inl (.inr (.inl asked))
        · exact .inr (.inl asked)
        · exact .inl (.inr (.inr (.inl announced)))
        · exact .inr (.inr (.inl announced))
        · exact .inr (.inr (.inr returned))

end Session

end BoundedScene.Supervision
