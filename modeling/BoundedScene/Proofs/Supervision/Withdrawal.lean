import BoundedScene.Proofs.Supervision.Rest
import BoundedScene.Proofs.Views

/-!
Contract: a call that waits and is given up leaves no trace with the others.

Owns:
- `without`, a session with one call given up and out of the run queue;
- that every function of a session goes along with it;
- `AgreesBut`, what two sessions have in common that differ in one call only.

A call that has had its first turn has made its request.  What it still does is to take its
answer, and nobody else looks at that.

Main statement: `Reachable.withdrawal_unnoticed`.

Does not own: calls that are given up before they had a turn.
-/

namespace BoundedScene.Supervision.Session

variable {Mark : Type} {session next left right : Session Mark} {id : Nat}

/-- The call of a number has had a turn. -/
def HasBegun (session : Session Mark) (id : Nat) : Prop :=
  ∃ call, session.calls[id]? = some call ∧ ∀ request, call ≠ ⟨request, .fresh⟩

/-- The name of every task but one call. -/
def otherTask (id : Nat) : Task → Option Task :=
  Option.guard fun task => task != .call id

/-- The session with one call given up and out of the run queue. -/
def without (id : Nat) (session : Session Mark) : Session Mark :=
  { session with
    agenda := session.agenda.seen (otherTask id)
    calls := session.calls.modify id fun call => { call with stage := .dropped } }

theorem otherTask_of_ne {task : Task} (other : task ≠ .call id) : otherTask id task = some task :=
  Option.guard_eq_some_iff.mpr ⟨rfl, by simpa using other⟩

theorem otherTask_self (id : Nat) : otherTask id (.call id) = none := by
  simp [otherTask, Option.guard]

theorem filterMap_otherTask (id : Nat) (tasks : List Task) :
    tasks.filterMap (otherTask id) = tasks.filter fun task => task != .call id := by
  unfold otherTask
  rw [List.filterMap_eq_filter]

/-! ## Waking -/

theorem seen_wakeAll (agenda : Agenda Task) (tasks : List Task) :
    (agenda.wakeAll tasks).seen (otherTask id)
      = (agenda.seen (otherTask id)).wakeAll (tasks.filterMap (otherTask id)) :=
  Agenda.seen_wakeAll _ (fun task other => (Option.guard_eq_some_iff.mp task).1.trans
    (Option.guard_eq_some_iff.mp other).1.symm) agenda tasks

theorem without_wakeAll (session : Session Mark) (tasks : List Task) :
    (session.wakeAll tasks).without id
      = (session.without id).wakeAll (tasks.filterMap (otherTask id)) := by
  unfold without wakeAll
  dsimp only
  rw [seen_wakeAll]

/-- A call that is given up waits for nothing. -/
theorem callTasks_without {test : Call → Bool}
    (idle : ∀ request, test ⟨request, .dropped⟩ = false) (session : Session Mark) :
    (session.without id).callTasks test = (session.callTasks test).filterMap (otherTask id) := by
  have tested (other : Nat) : (session.without id).calls[other]?.any test
      = (session.calls[other]?.any test && other != id) := by
    show (session.calls.modify id _)[other]?.any test = _
    by_cases same : other = id
    · subst same
      rw [List.getElem?_modify_eq]
      cases session.calls[other]? <;> simp [idle]
    · rw [List.getElem?_modify_ne _ _ (Ne.symm same)]
      simp [same]
  have length : (session.without id).calls.length = session.calls.length := List.length_modify ..
  unfold callTasks
  rw [length, filterMap_otherTask, List.filter_map, List.filter_filter]
  congr 1
  refine List.filter_congr fun other _ => ?_
  have apart : (Task.call other != Task.call id) = (other != id) := by
    rw [Bool.eq_iff_iff, bne_iff_ne, bne_iff_ne, ne_eq, ne_eq, Task.call.injEq]
  rw [tested, Bool.and_comm, ← apart]
  rfl

theorem endingWatchers_without (session : Session Mark) :
    (session.without id).endingWatchers = session.endingWatchers.filterMap (otherTask id) := by
  unfold endingWatchers
  rw [callTasks_without fun _ => rfl]
  show (if session.control.ending then _ else _) = _
  split <;> rfl

theorem stopWatchers_without (session : Session Mark) :
    (session.without id).stopWatchers = session.stopWatchers.filterMap (otherTask id) := by
  unfold stopWatchers
  rw [endingWatchers_without, List.filterMap_append]
  congr 1
  show (if session.control.stopRequested then [] else [Task.loop]) = _
  split
  · rfl
  · have loop : otherTask id .loop = some .loop := otherTask_of_ne nofun
    simp [loop]

theorem without_updateControl (session : Session Mark) (control : Control LoopError)
    (woken : List Task) :
    (session.updateControl control woken).without id
      = (session.without id).updateControl control (woken.filterMap (otherTask id)) :=
  without_wakeAll _ _

/-! ## The turn of the loop -/

theorem without_finish (session : Session Mark) (own : Except LoopError Unit) :
    (session.finish own).without id = (session.without id).finish own := by
  have watchers := @endingWatchers_without Mark id session
  have waiters : (session.without id).resultWatchers
      = session.resultWatchers.filterMap (otherTask id) := callTasks_without (fun _ => rfl) session
  unfold finish
  rw [without_updateControl, List.filterMap_append, ← watchers, ← waiters]
  rfl

theorem without_proceed (remaining : List (LoopAction Mark)) (alarm : Option Nat)
    (session : Session Mark) :
    (proceed remaining alarm session).without id
      = proceed remaining alarm (session.without id) := by
  induction remaining generalizing alarm session with
  | nil => exact session.without_finish _
  | cons action rest inductionHypothesis =>
      cases action with
      | stopped =>
          show (if session.control.stopRequested then _ else _ : Session Mark).without id
            = if session.control.stopRequested then _ else _
          rw [apply_ite (without id), inductionHypothesis]
          rfl
      | sleep length =>
          show (if session.clock.isDue (alarm.getD (session.clock.deadline length))
            then _ else _ : Session Mark).without id
            = if session.clock.isDue (alarm.getD (session.clock.deadline length)) then _ else _
          rw [apply_ite (without id), inductionHypothesis]
          rfl
      | stoppedOrSleep length =>
          show (if session.control.stopRequested then _
              else if session.clock.isDue (alarm.getD (session.clock.deadline length)) then _
              else _ : Session Mark).without id
            = if session.control.stopRequested then _
              else if session.clock.isDue (alarm.getD (session.clock.deadline length)) then _
              else _
          rw [apply_ite (without id), apply_ite (without id), inductionHypothesis,
            inductionHypothesis]
          rfl
      | gate =>
          show (if 0 < session.permits then _ else _ : Session Mark).without id
            = if 0 < session.permits then _ else _
          rw [apply_ite (without id), inductionHypothesis]
          rfl
      | conclude =>
          show (proceed rest none _).without id = proceed rest none _
          rw [inductionHypothesis, without_updateControl, ← endingWatchers_without]
          rfl
      | isStopping => exact inductionHypothesis none _
      | mark mark => exact inductionHypothesis none _
      | succeed => exact session.without_finish _
      | fail message => exact session.without_finish _
      | panic payload => exact session.without_finish _

theorem without_resumeLoop (session : Session Mark) :
    session.resumeLoop.without id = (session.without id).resumeLoop := by
  have same : (session.without id).loop = session.loop := rfl
  unfold Session.resumeLoop
  rw [same]
  cases session.loop with
  | running remaining alarm => exact without_proceed remaining alarm session
  | _ => rfl

/-! ## The turn of a call -/

theorem without_setStage {other : Nat} (apart : other ≠ id) (session : Session Mark)
    (stage : Stage) :
    (session.setStage other stage).without id = (session.without id).setStage other stage := by
  unfold without setStage
  dsimp only
  rw [List.modify_modify_ne _ _ _ apart]

theorem without_setStage_self (session : Session Mark) (stage : Stage) :
    (session.setStage id stage).without id = session.without id := by
  unfold without setStage
  dsimp only
  rw [List.modify_modify_eq]
  rfl

theorem without_awaitResult {other : Nat} (apart : other ≠ id) (session : Session Mark) :
    (session.awaitResult other).without id = (session.without id).awaitResult other := by
  rw [awaitResult_eq, awaitResult_eq, without_setStage apart]
  rfl

theorem without_awaitEnding {other : Nat} (apart : other ≠ id) (session : Session Mark) :
    (session.awaitEnding other).without id = (session.without id).awaitEnding other := by
  rw [awaitEnding_eq, awaitEnding_eq, without_setStage apart]
  rfl

theorem without_resumeCall {other : Nat} (apart : other ≠ id) (session : Session Mark) :
    (session.resumeCall other).without id = (session.without id).resumeCall other := by
  have same : (session.without id).calls[other]? = session.calls[other]? :=
    List.getElem?_modify_ne _ _ (Ne.symm apart)
  have asked (control : Control LoopError) :
      (session.updateControl control session.stopWatchers).without id
        = (session.without id).updateControl control (session.without id).stopWatchers := by
    rw [without_updateControl, ← stopWatchers_without]
  unfold resumeCall
  rw [same]
  cases session.calls[other]? with
  | none => rfl
  | some call =>
      obtain ⟨request, stage⟩ := call
      cases stage with
      | fresh =>
          cases request with
          | stop =>
              show ((session.updateControl _ _).awaitResult other).without id = _
              rw [without_awaitResult apart, asked]
              rfl
          | wait => exact without_awaitResult apart session
          | kill message =>
              show ((session.updateControl _ _).setStage other _).without id = _
              rw [without_setStage apart, asked]
              show _ = ((session.without id).updateControl _ _).setStage other _
              rw [clock_updateControl, clock_updateControl]
              rfl
          | ending => exact without_awaitEnding apart session
          | look => exact without_setStage apart session _
      | awaitingResult => exact without_awaitResult apart session
      | awaitingEnding => exact without_awaitEnding apart session
      | finished => rfl
      | dropped => rfl

/-- A call that has begun changes nothing but how far it has come. -/
theorem without_resumeCall_self (begun : session.HasBegun id) :
    (session.resumeCall id).without id = session.without id := by
  obtain ⟨call, found, begun⟩ := begun
  have turn := resumeCall_turn found
  obtain ⟨request, stage⟩ := call
  cases stage with
  | fresh => exact absurd rfl (begun request)
  | _ =>
      generalize session.resumeCall id = after at turn ⊢
      cases turn with
      | stops _ fresh => cases fresh
      | kills _ fresh => cases fresh
      | looks _ fresh => cases fresh
      | waits => exact without_setStage_self _ _
      | watches => exact without_setStage_self _ _
      | ceased => rfl

/-! ## Turns -/

theorem without_resume {task : Task} (other : task ≠ .call id) (session : Session Mark) :
    (resume task session).without id = resume task (session.without id) := by
  cases task with
  | loop => exact session.without_resumeLoop
  | call caller => exact without_resumeCall (fun same => other (congrArg Task.call same)) session

/-- Only the loop has an alarm. -/
theorem without_reach (instant : Nat) (session : Session Mark) :
    (Turns.reach instant session).without id = Turns.reach instant (session.without id) := by
  let ticked := Turns.withClock session ((Turns.clock session).reach instant)
  have loops : ∀ task ∈ Turns.dueOwners ticked, otherTask id task = some task := by
    intro task member
    obtain ⟨alarm, due, rfl⟩ := List.mem_map.mp member
    have armed : alarm ∈ session.alarms := (List.mem_filter.mp (List.mem_mergeSort.mp due)).1
    unfold alarms at armed
    split at armed
    · rw [List.mem_singleton.mp armed]
      exact otherTask_of_ne nofun
    · cases armed
  have owners : (Turns.dueOwners ticked).filterMap (otherTask id) = Turns.dueOwners ticked := by
    rw [List.filterMap_congr loops, List.filterMap_some]
  show (ticked.wakeAll (Turns.dueOwners ticked)).without id = _
  rw [without_wakeAll, owners]
  rfl

theorem call_modify {calls : List Call} {other : Nat} {call : Call}
    (found : calls[other]? = some call) (change : Call → Call) (place : Nat) :
    (calls.modify place change)[other]? = some (if place = other then change call else call) := by
  rw [List.getElem?_modify, found]
  rfl

/-- A call that has had a turn does not become new again. -/
theorem HasBegun.resume (begun : session.HasBegun id) (task : Task) :
    (resume task session).HasBegun id := by
  obtain ⟨call, found, begun⟩ := begun
  have kept {after : Session Mark} (calls : after.calls = session.calls) : after.HasBegun id :=
    ⟨call, calls ▸ found, begun⟩
  cases task with
  | loop => exact kept session.resumeLoop_steady.calls
  | call other =>
      show (session.resumeCall other).HasBegun id
      cases present : session.calls[other]? with
      | none =>
          rw [resumeCall_none present]
          exact kept rfl
      | some caller =>
          have turn := resumeCall_turn present
          generalize session.resumeCall other = after at turn ⊢
          have staged {middle : Session Mark} {stage : Stage} (calls : middle.calls = session.calls)
              (moved : stage ≠ .fresh) : (middle.setStage other stage).HasBegun id := by
            refine ⟨_, call_modify (calls ▸ found) _ other, fun request same => ?_⟩
            split at same
            · cases same
              exact moved rfl
            · exact begun request same
          have resulted (middle : Session Mark) : middle.resultStage ≠ .fresh := by
            unfold resultStage
            split <;> nofun
          cases turn with
          | stops => exact staged rfl (resulted _)
          | kills => exact staged rfl nofun
          | waits => exact staged rfl (resulted _)
          | watches =>
              refine staged rfl ?_
              unfold endingStage
              split <;> nofun
          | looks => exact staged rfl nofun
          | ceased => exact kept rfl

/-! ## Deeds -/

theorem seen_seen (agenda : Agenda Task) :
    (agenda.seen (otherTask id)).seen (otherTask id) = agenda.seen (otherTask id) := by
  unfold Agenda.seen
  simp only [filterMap_otherTask, List.filter_filter, Bool.and_self]

/-- A change of the calls that leaves the one that is given up in its place. -/
theorem without_withCalls (change : List Call → List Call) (session : Session Mark)
    (places : ∀ place : Nat, ((change session.calls).modify id
        fun call => { call with stage := .dropped })[place]?
      = ((change (session.calls.modify id fun call => { call with stage := .dropped })).modify id
        fun call => { call with stage := .dropped })[place]?) :
    ({ session with calls := change session.calls } : Session Mark).without id
      = ({ session.without id with
          calls := change (session.without id).calls } : Session Mark).without id := by
  unfold without
  dsimp only
  rw [seen_seen, List.ext_getElem? places]

theorem without_without (session : Session Mark) :
    (session.without id).without id = session.without id := by
  unfold without
  dsimp only
  rw [seen_seen, List.modify_modify_eq]
  rfl

theorem without_makeCall (request : Request) (session : Session Mark) :
    (session.act (.call request)).without id
      = ((session.without id).act (.call request)).without id := by
  have made := @without_withCalls Mark id (fun calls => calls ++ [⟨request, .fresh⟩]) session
    fun place => by
      rw [List.getElem?_modify, List.getElem?_modify, List.getElem?_append, List.getElem?_append,
        List.length_modify, List.getElem?_modify]
      by_cases same : id = place
      · subst same
        simp only [if_pos]
        split <;> cases session.calls[id]? <;> rfl
      · simp [same]
  have length : (session.without id).calls.length = session.calls.length := List.length_modify ..
  show (Session.wakeAll _ [.call session.calls.length]).without id
    = (Session.wakeAll _ [.call (session.without id).calls.length]).without id
  rw [length, without_wakeAll, without_wakeAll]
  exact congrArg (fun made => Session.wakeAll made _) made

theorem without_cancel (other : Nat) (session : Session Mark) :
    (session.act (.cancel other)).without id
      = ((session.without id).act (.cancel other)).without id := by
  refine session.without_withCalls (fun calls => calls.modify other fun call =>
    if call.isUnfinished then { call with stage := .dropped } else call) fun place => ?_
  simp only [List.getElem?_modify]
  cases session.calls[place]? with
  | none => rfl
  | some call =>
      by_cases same : id = place
      · by_cases own : other = place
        · cases unfinished : call.isUnfinished <;> simp [same, own, unfinished]
        · simp [same, own]
      · simp [same]

theorem without_dropTasks (session : Session Mark) :
    session.dropTasks.without id = ((session.without id).dropTasks).without id := by
  have given := @without_withCalls Mark id (fun calls => calls.map fun call =>
    if call.isUnfinished then { call with stage := .dropped } else call) session fun place => by
      simp only [List.getElem?_modify, List.getElem?_map]
      cases session.calls[place]? with
      | none => rfl
      | some call =>
          by_cases same : id = place
          · cases unfinished : call.isUnfinished <;> simp [same, unfinished]
          · simp [same]
  have calls := congrArg Session.calls given
  unfold dropTasks without
  congr 1

theorem without_act (deed : Deed) (session : Session Mark) :
    (session.act deed).without id = ((session.without id).act deed).without id := by
  cases deed with
  | call request => exact without_makeCall request session
  | cancel other => exact without_cancel other session
  | permit count =>
      show (Session.wakeAll _ [.loop]).without id = (Session.wakeAll _ [.loop]).without id
      rw [without_wakeAll, without_wakeAll]
      exact congrArg (fun seen : Session Mark =>
        Session.wakeAll { seen with permits := session.permits + count } _)
        session.without_without.symm
  | dropTasks => exact session.without_dropTasks

theorem without_actAll (deeds : List Deed) (same : left.without id = right.without id) :
    (deeds.foldl act left).without id = (deeds.foldl act right).without id := by
  induction deeds generalizing left right with
  | nil => exact same
  | cons deed rest inductionHypothesis =>
      refine inductionHypothesis ?_
      rw [without_act, same, ← without_act]

theorem HasBegun.act (begun : session.HasBegun id) (deed : Deed) :
    (session.act deed).HasBegun id := by
  obtain ⟨call, found, begun⟩ := begun
  have ceases : ∀ request, (if call.isUnfinished then { call with stage := .dropped } else call)
      ≠ ⟨request, .fresh⟩ := by
    intro request
    split
    · nofun
    · exact begun request
  cases deed with
  | call request =>
      have inside := (List.getElem?_eq_some_iff.mp found).1
      exact ⟨call, (List.getElem?_append_left inside).trans found, begun⟩
  | cancel other =>
      refine ⟨_, call_modify found _ other, fun request => ?_⟩
      split
      · exact ceases request
      · exact begun request
  | permit count => exact ⟨call, found, begun⟩
  | dropTasks => exact ⟨_, (List.getElem?_map ..).trans (congrArg _ found), ceases⟩

/-! ## Two runs -/

variable {script : List (LoopAction Mark)}

/-- A turn of a session does not show without the call, or it is a turn without it too. -/
theorem without_turn (begun : session.HasBegun id) (turn : Turns.turn? session = some next) :
    next.without id = session.without id
      ∨ Turns.turn? (session.without id) = some (next.without id) := by
  unfold Turns.turn? at turn
  cases ready : (Turns.agenda session).ready with
  | nil =>
      rw [ready] at turn
      have idle : (Turns.agenda (session.without id)).ready = [] :=
        congrArg (List.filterMap (otherTask id)) ready
      split at turn
      case h_1 busy => cases busy
      case h_2 =>
        split at turn
        case isFalse => cases turn
        case isTrue behind =>
          obtain rfl := Option.some.inj turn
          right
          unfold Turns.turn?
          rw [idle]
          exact (if_pos behind).trans (congrArg some (without_reach _ session).symm)
  | cons task later =>
      rw [ready] at turn
      obtain rfl := Option.some.inj turn
      let taken : Session Mark := { session with agenda := { session.agenda with ready := later } }
      have seen : (Turns.agenda (session.without id)).ready
          = (task :: later).filterMap (otherTask id) :=
        congrArg (List.filterMap (otherTask id)) ready
      by_cases own : task = .call id
      · subst own
        rw [List.filterMap_cons_none (otherTask_self id)] at seen
        left
        have begun : taken.HasBegun id := begun
        refine (without_resumeCall_self begun).trans ?_
        show ({ session.without id with
          agenda := ⟨later.filterMap (otherTask id), session.agenda.clock⟩ } : Session Mark) = _
        rw [← seen]
        rfl
      · rw [List.filterMap_cons_some (otherTask_of_ne own)] at seen
        right
        unfold Turns.turn?
        rw [seen]
        exact congrArg some (without_resume own taken).symm

theorem without_rests (rest : Turns.turn? session = none) :
    Turns.turn? (session.without id) = none := by
  unfold Turns.turn? at rest
  split at rest
  case h_1 => cases rest
  case h_2 ready =>
    have idle : (Turns.agenda (session.without id)).ready = [] :=
      congrArg (List.filterMap (otherTask id)) ready
    split at rest
    case isTrue => cases rest
    case isFalse noticed =>
      unfold Turns.turn?
      rw [idle]
      exact if_neg noticed

/-- A session of a run in which the call of a number has had a turn. -/
def IsUnderWay (script : List (LoopAction Mark)) (id : Nat) (session : Session Mark) : Prop :=
  Reachable script session ∧ session.HasBegun id

theorem keeps_isUnderWay (script : List (LoopAction Mark)) (id : Nat) :
    Turns.Keeps (IsUnderWay script id) where
  resume {session task later} held ready := by
    have begun : HasBegun
        (Turns.withAgenda session { Turns.agenda session with ready := later }) id := held.2
    exact ⟨(keeps_reachable script).resume held.1 ready, begun.resume task⟩
  reach instant held := ⟨(keeps_reachable script).reach instant held.1, held.2⟩

theorem without_shows (script : List (LoopAction Mark)) (id : Nat) :
    Turns.Shows (IsUnderWay script id) (without id) fun session => Turns.turn? session where
  keeps := keeps_isUnderWay script id
  turn held turn := without_turn held.2 turn
  rest _ rest := without_rests rest

theorem without_showsTime (id : Nat) :
    Turns.ShowsTime (without id : Session Mark → Session Mark) where
  clock {left right} same := by
    show (left.without id).clock = (right.without id).clock
    rw [same]
  alarms {left right} same := by
    show (left.without id).alarms = (right.without id).alarms
    rw [same]
  reach instant same := by rw [without_reach, without_reach, same]

theorem Reachable.settles (reachable : Reachable script session) : Turns.Settles session := by
  have rests : (Turns.agenda (Turns.settle session)).ready = [] := reachable.settle_rests
  have punctual : (Turns.clock (Turns.settle session)).isBehind = false :=
    ((keeps_reachable script).settle reachable).punctual
  unfold Turns.Settles Turns.turn?
  rw [rests, punctual]
  rfl

/-- All that two sessions have in common that differ in one call only. -/
structure AgreesBut (id : Nat) (left right : Session Mark) : Prop where
  clock : left.clock = right.clock
  control : left.control = right.control
  loop : left.loop = right.loop
  permits : left.permits = right.permits
  log : left.log = right.log
  calls : ∀ other, other ≠ id → left.calls[other]? = right.calls[other]?

theorem agreesBut_of_without (same : left.without id = right.without id) :
    AgreesBut id left right := by
  have shown {α : Type} (show? : Session Mark → α) :
      show? (left.without id) = show? (right.without id) := congrArg show? same
  refine ⟨shown clock, shown control, shown loop, shown permits, shown log, fun other apart => ?_⟩
  have calls := shown fun session => session.calls[other]?
  simpa [without, List.getElem?_modify_ne _ _ (Ne.symm apart)] using calls

theorem without_perform (leftHeld : IsUnderWay script id left)
    (rightHeld : IsUnderWay script id right) (same : left.without id = right.without id)
    (step : Step) : IsUnderWay script id (left.perform step)
      ∧ IsUnderWay script id (right.perform step)
      ∧ (left.perform step).without id = (right.perform step).without id := by
  have keeps := keeps_isUnderWay script id
  have settles : ∀ session, IsUnderWay script id session → Turns.Settles session :=
    fun _ held => held.1.settles
  have shown := without_shows script id
  cases step with
  | elapse length =>
      exact ⟨keeps.elapse length leftHeld, keeps.elapse length rightHeld,
        shown.elapse (without_showsTime id) length leftHeld rightHeld same
          (keeps.settlesElapsing settles length leftHeld)
          (keeps.settlesElapsing settles length rightHeld)⟩
  | deeds deeds =>
      have acted {session : Session Mark} (held : IsUnderWay script id session) :
          IsUnderWay script id (deeds.foldl act session) :=
        List.foldlRecOn (motive := IsUnderWay script id) deeds act held
          fun _ held deed _ => ⟨held.1.moved (.act deed), held.2.act deed⟩
      have leftActed := acted leftHeld
      have rightActed := acted rightHeld
      exact ⟨keeps.settle leftActed, keeps.settle rightActed,
        shown.settle shown leftActed rightActed (without_actAll deeds same) (settles _ leftActed)
          (settles _ rightActed)⟩

theorem without_performAll (steps : List Step) (leftHeld : IsUnderWay script id left)
    (rightHeld : IsUnderWay script id right) (same : left.without id = right.without id) :
    (steps.foldl perform left).without id = (steps.foldl perform right).without id := by
  induction steps generalizing left right with
  | nil => exact same
  | cons step later inductionHypothesis =>
      obtain ⟨leftNext, rightNext, again⟩ := without_perform leftHeld rightHeld same step
      exact inductionHypothesis leftNext rightNext again

/-- A call that waits and is given up goes unnoticed: whatever the callers do from then on,
the loop, the flags, the log, the clock and all other calls are what they would have been. -/
theorem Reachable.withdrawal_unnoticed (reachable : Reachable script session) {call : Call}
    (found : session.calls[id]? = some call)
    (waits : call.awaitsResult = true ∨ call.awaitsEnding = true) (steps : List Step) :
    AgreesBut id (steps.foldl Session.perform (session.act (.cancel id)))
      (steps.foldl Session.perform session) := by
  have begun : session.HasBegun id := by
    refine ⟨call, found, ?_⟩
    rintro request rfl
    rcases waits with impossible | impossible <;> cases impossible
  have same : (session.act (.cancel id)).without id = session.without id := by
    unfold without
    show ({ session with
      agenda := _, calls := (session.calls.modify id _).modify id _ } : Session Mark) = _
    rw [List.modify_modify_eq]
    congr 2
    funext call
    simp only [Function.comp_apply]
    split <;> rfl
  exact agreesBut_of_without (without_performAll steps
    ⟨reachable.moved (.act (.cancel id)), begun.act (.cancel id)⟩ ⟨reachable, begun⟩ same)

end BoundedScene.Supervision.Session
