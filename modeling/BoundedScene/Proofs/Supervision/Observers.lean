import BoundedScene.Proofs.Supervision.Course
import BoundedScene.Proofs.Supervision.Attention
import BoundedScene.Proofs.Supervision.Flags
import BoundedScene.Proofs.Supervision.Withdrawal

/-!
Contract: what the flags of a supervised loop tell, and who still waits once it rests.

Owns:
- `Stands`, which results there are where a loop runs, returned or was lost;
- `Call.Agrees`, what a call that waits or was answered says about the flags;
- `FlagsTell`, all that the flags, the calls and the function learn of each other.

Main statement: `flags_tell_what_happened`.

Does not own: which result the calls obtain.
-/

namespace BoundedScene.Supervision

variable {Mark : Type}

/-- A call waits only for what it asked for, and what it waited for has come about once it is
answered.  A result has come about, too, when the loop was lost. -/
def Call.Agrees (control : Control LoopError) (call : Call) : Prop :=
  match call.stage with
  | .awaitingResult => call.request.asksResult = true
  | .awaitingEnding => call.request = .ending
  | .finished _ _ =>
      (call.request.asksResult = true → control.isFinished = true ∨ control.lost = true)
        ∧ (call.request = .ending → control.ending = true)
  | _ => True

namespace Session

variable {script : List (LoopAction Mark)} {before after session : Session Mark}

/-! ## Where the loop stands -/

/-- There is a result if the loop has returned, and only a loop that was destroyed before is
lost. -/
def Stands (session : Session Mark) : Prop :=
  match session.loop with
  | .running _ _ => session.control.outcome = none ∧ session.control.lost = false
  | .returned => session.control.isFinished = true ∧ session.control.lost = false
  | .lost => session.control.outcome = none ∧ session.control.lost = true

theorem Stands.congr (stands : before.Stands) (loop : after.loop = before.loop)
    (outcome : after.control.outcome = before.control.outcome)
    (lost : after.control.lost = before.control.lost) : after.Stands := by
  unfold Stands Control.isFinished at stands ⊢
  rw [loop, outcome, lost]
  exact stands

theorem Stands.resumeLoop (stands : session.Stands) : session.resumeLoop.Stands := by
  rcases session.resumeLoop_cases with ⟨same, -⟩ | ⟨done, rest, reached, alarm, at_, runs, turn⟩
  · rwa [same]
  · have stood : session.control.outcome = none ∧ session.control.lost = false := by
      unfold Stands at stands
      rwa [at_] at stands
    rcases turn with ⟨due, parked, -⟩ | ⟨finished, -⟩
    · rw [parked]
      exact ⟨runs.spares.outcome.trans stood.1, runs.spares.lost.trans stood.2⟩
    · rw [finished]
      exact ⟨rfl, runs.spares.lost.trans stood.2⟩

theorem Stands.dropTasks (stands : session.Stands) : session.dropTasks.Stands := by
  unfold Stands Session.dropTasks Control.lose Control.isFinished at *
  cases loop : session.loop with
  | running =>
      rw [loop] at stands
      obtain ⟨unset, kept⟩ := stands
      simp [unset, kept]
  | returned =>
      rw [loop] at stands
      obtain ⟨stored, kept⟩ := stands
      simp [stored, kept]
  | lost =>
      rw [loop] at stands
      obtain ⟨unset, lost⟩ := stands
      simp [unset, lost]

theorem Stands.move (stands : session.Stands) (move : Move) : (session.move move).Stands := by
  cases move with
  | reach instant => exact stands.congr rfl rfl rfl
  | act deed =>
      cases deed with
      | dropTasks => exact stands.dropTasks
      | _ => exact stands.congr rfl rfl rfl
  | resume task =>
      have dequeued : (session.dequeue task).Stands := stands.congr rfl rfl rfl
      cases task with
      | loop => exact dequeued.resumeLoop
      | call id =>
          obtain ⟨lost, outcome, -⟩ := (session.dequeue (.call id)).resumeCall_steady id
          exact stands.congr ((session.dequeue (.call id)).flags_resumeCall id).2.2 outcome lost

theorem Reachable.stands (reachable : Reachable script session) : session.Stands := by
  induction reachable with
  | started => exact ⟨rfl, rfl⟩
  | moved move _ inductionHypothesis => exact inductionHypothesis.move move

theorem Stands.isFinished_iff (stands : session.Stands) :
    session.control.isFinished = true ↔ session.loop.hasReturned = true := by
  unfold Stands at stands
  cases loop : session.loop with
  | returned =>
      rw [loop] at stands
      exact iff_of_true stands.1 rfl
  | running =>
      rw [loop] at stands
      simp [Control.isFinished, stands.1, LoopTask.hasReturned]
  | lost =>
      rw [loop] at stands
      simp [Control.isFinished, stands.1, LoopTask.hasReturned]

/-! ## What never becomes false again -/

/-- The flags that were raised are still raised, and a loop that was lost is lost. -/
structure Raises (before after : Session Mark) : Prop where
  stopRequested : before.control.stopRequested = true → after.control.stopRequested = true
  ending : before.control.ending = true → after.control.ending = true
  isFinished : before.control.isFinished = true → after.control.isFinished = true
  lost : before.control.lost = true → after.control.lost = true

theorem Raises.trans {middle : Session Mark} (early : Raises before middle)
    (late : Raises middle after) : Raises before after where
  stopRequested := late.stopRequested ∘ early.stopRequested
  ending := late.ending ∘ early.ending
  isFinished := late.isFinished ∘ early.isFinished
  lost := late.lost ∘ early.lost

theorem Stands.raises (stands : session.Stands) (move : Move) :
    Raises session (session.move move) where
  stopRequested raised := by rw [stopRequested_move, raised, Bool.true_or]
  ending raised := (session.ending_move move).mpr (.inl raised)
  isFinished finished := by
    have returned := (hasReturned_iff _).mp (stands.isFinished_iff.mp finished)
    refine (stands.move move).isFinished_iff.mpr ((hasReturned_iff _).mpr ?_)
    exact (loop_move_of_ceased (.inl returned) move).trans returned
  lost lost := by
    by_contra kept
    have unlost := kept_before session move (Bool.eq_false_iff.mpr kept)
    cases lost.symm.trans unlost

theorem Reachable.raises (reachable : Reachable script session) (later : List Move) :
    Raises session (session.moves later) := by
  unfold Session.moves
  induction later generalizing session with
  | nil => exact ⟨id, id, id, id⟩
  | cons first rest inductionHypothesis =>
      exact (reachable.stands.raises first).trans (inductionHypothesis (reachable.moved first))

/-! ## What the calls say -/

/-- All calls agree with the flags. -/
def Consents (session : Session Mark) : Prop :=
  ∀ call ∈ session.calls, call.Agrees session.control

theorem agrees_mono {call : Call} (agrees : call.Agrees before.control)
    (raises : Raises before after) : call.Agrees after.control := by
  obtain ⟨request, stage⟩ := call
  cases stage with
  | finished answer millisecond =>
      exact ⟨fun asks => (agrees.1 asks).imp raises.isFinished raises.lost,
        fun asks => raises.ending (agrees.2 asks)⟩
  | _ => exact agrees

theorem Consents.mono (consents : before.Consents) (raises : Raises before after)
    (calls : ∀ call ∈ after.calls, call ∈ before.calls ∨ call.Agrees after.control) :
    after.Consents := fun call member => by
  rcases calls call member with old | agrees
  · exact agrees_mono (consents call old) raises
  · exact agrees

theorem mem_setStage {id : Nat} {call other : Call} (found : session.calls[id]? = some call)
    {stage : Stage} (member : other ∈ (session.setStage id stage).calls) :
    other ∈ session.calls ∨ other = { call with stage } := by
  obtain ⟨older, newer, split, changed⟩ := setStage_calls found stage
  rw [changed, List.mem_append, List.mem_cons] at member
  rw [split, List.mem_append, List.mem_cons]
  rcases member with old | rfl | new
  · exact .inl (.inl old)
  · exact .inr rfl
  · exact .inl (.inr (.inr new))

/-- A call that asks for the result waits until the loop has returned or is lost. -/
theorem agrees_resultStage {request : Request} (asks : request.asksResult = true) :
    Call.Agrees session.control ⟨request, session.resultStage⟩ := by
  unfold resultStage Control.result?
  cases outcome : session.control.outcome with
  | some result =>
      refine ⟨fun _ => .inl (by simp [Control.isFinished, outcome]), ?_⟩
      rintro rfl
      cases asks
  | none =>
      cases lost : session.control.lost with
      | false => exact asks
      | true =>
          refine ⟨fun _ => .inr lost, ?_⟩
          rintro rfl
          cases asks

theorem agrees_endingStage : Call.Agrees session.control ⟨.ending, session.endingStage⟩ := by
  unfold endingStage
  split
  case isTrue begun => exact ⟨nofun, fun _ => begun⟩
  case isFalse => exact rfl

theorem Consents.turn (consents : before.Consents) {id : Nat} {call : Call}
    (found : before.calls[id]? = some call) (turn : before.Turn id call after)
    (raises : Raises before after) : after.Consents := by
  have agrees := consents call (List.mem_of_getElem? found)
  obtain ⟨request, stage⟩ := call
  have staged {middle : Session Mark} {stage : Stage} (calls : middle.calls = before.calls)
      (own : Call.Agrees middle.control ⟨request, stage⟩)
      (raised : Raises before (middle.setStage id stage)) : (middle.setStage id stage).Consents :=
    consents.mono raised fun other member => by
      rcases mem_setStage (calls ▸ found) member with old | rfl
      · exact .inl (calls ▸ old)
      · exact .inr own
  cases turn with
  | stops asked =>
      cases asked
      exact staged rfl (agrees_resultStage rfl) raises
  | kills asked =>
      cases asked
      exact staged rfl ⟨nofun, nofun⟩ raises
  | waits asks =>
      have asks : request.asksResult = true := by
        rcases asks with ⟨rfl, -⟩ | waiting
        · rfl
        · cases waiting
          exact agrees
      exact staged rfl (agrees_resultStage asks) raises
  | watches asks =>
      have request : request = .ending := by
        rcases asks with ⟨asked, -⟩ | waiting
        · exact asked
        · cases waiting
          exact agrees
      subst request
      exact staged rfl agrees_endingStage raises
  | looks asked =>
      cases asked
      exact staged rfl ⟨nofun, nofun⟩ raises
  | ceased => exact consents

theorem agrees_of_givenUp {control : Control LoopError} {call : Call}
    (agrees : call.Agrees control) : call.givenUp.Agrees control := by
  unfold Call.givenUp
  split
  · trivial
  · exact agrees

theorem Consents.move (consents : session.Consents) (move : Move)
    (raises : Raises session (session.move move)) : (session.move move).Consents := by
  cases move with
  | reach instant => exact consents
  | act deed =>
      cases deed with
      | call request =>
          refine consents.mono raises fun call member => ?_
          rcases List.mem_append.mp member with old | new
          · exact .inl old
          · rw [List.mem_singleton.mp new]
            exact .inr trivial
      | cancel id =>
          refine consents.mono raises fun call member => ?_
          obtain ⟨place, present⟩ := List.mem_iff_getElem?.mp member
          obtain ⟨old, earlier, rfl⟩ :=
            Option.map_eq_some_iff.mp ((List.getElem?_modify ..).symm.trans present)
          have agrees := consents old (List.mem_of_getElem? earlier)
          split
          · exact .inr (agrees_of_givenUp agrees)
          · exact .inr agrees
      | permit count => exact consents
      | dropTasks =>
          refine consents.mono raises fun call member => ?_
          obtain ⟨old, earlier, rfl⟩ := List.mem_map.mp member
          exact .inr (agrees_of_givenUp (agrees_mono (consents old earlier) raises))
  | resume task =>
      cases task with
      | loop =>
          refine consents.mono raises fun call member => .inl ?_
          rwa [show (session.move (.resume .loop)).calls = session.calls from
            (session.dequeue .loop).resumeLoop_steady.calls] at member
      | call id =>
          have begun : (session.dequeue (.call id)).Consents := consents
          have raises : Raises (session.dequeue (.call id))
              ((session.dequeue (.call id)).resumeCall id) :=
            ⟨raises.1, raises.2, raises.3, raises.4⟩
          show ((session.dequeue (.call id)).resumeCall id).Consents
          cases found : session.calls[id]? with
          | none =>
              rw [resumeCall_none (show (session.dequeue (.call id)).calls[id]? = none from found)]
              exact begun
          | some call => exact begun.turn found (resumeCall_turn found) raises

theorem Reachable.consents (reachable : Reachable script session) : session.Consents := by
  induction reachable with
  | started => exact nofun
  | moved move reachable inductionHypothesis =>
      exact inductionHypothesis.move move (reachable.stands.raises move)

/-! ## At rest -/

/-- At rest, a call that was not given up waits for the begin of the end if and only if the end
has not begun, and for the result if and only if there is none and the loop is not lost. -/
theorem Reachable.waits_iff (reachable : Reachable script session)
    (rests : session.agenda.ready = []) {id : Nat} {call : Call}
    (found : session.calls[id]? = some call) (kept : call.stage ≠ .dropped) :
    (call.request = .ending → (call.isUnfinished = true ↔ session.control.ending = false))
      ∧ (call.request.asksResult = true →
        (call.isUnfinished = true ↔ session.control.isFinished = false
          ∧ session.control.lost = false)) := by
  have agrees := reachable.consents call (List.mem_of_getElem? found)
  have idle : session.IsIdle call :=
    (reachable.attentive.calls id call found (by simp)).resolve_left (by simp [rests])
  obtain ⟨request, stage⟩ := call
  cases stage with
  | fresh => exact idle.elim
  | dropped => exact absurd rfl kept
  | awaitingEnding =>
      refine ⟨fun _ => iff_of_true rfl idle, ?_⟩
      obtain rfl : request = .ending := agrees
      simp [Request.asksResult]
  | awaitingResult =>
      constructor
      · rintro rfl
        cases agrees
      · intro _
        have none : session.control.result? (.abandoned Abandonment.dropped) = none := idle
        unfold Control.result? at none
        cases outcome : session.control.outcome with
        | some result => simp [outcome] at none
        | none =>
            cases lost : session.control.lost with
            | true => simp [outcome, lost] at none
            | false => exact iff_of_true rfl ⟨by simp [Control.isFinished, outcome], rfl⟩
  | finished answer millisecond =>
      constructor
      · intro asks
        exact iff_of_false (by simp [Call.isUnfinished]) (by simp [agrees.2 asks])
      · intro asks
        refine iff_of_false (by simp [Call.isUnfinished]) ?_
        rintro ⟨unfinished, unlost⟩
        rcases agrees.1 asks with finished | lost
        · cases finished.symm.trans unfinished
        · cases lost.symm.trans unlost

/-! ## What the function learns -/

/-- In the turn of the loop a function that waits for a stop goes on if and only if one is
requested. -/
theorem stopped_resolves {rest : List (LoopAction Mark)} {alarm : Option Nat}
    (waits : session.loop = .running (.stopped :: rest) alarm) :
    (∃ due, (session.move (.resume .loop)).loop = .running (.stopped :: rest) due)
      ↔ session.control.stopRequested = false := by
  have waiting : (session.dequeue .loop).loop = .running (.stopped :: rest) alarm := waits
  show (∃ due, (session.dequeue .loop).resumeLoop.loop = .running (.stopped :: rest) due)
    ↔ (session.dequeue .loop).control.stopRequested = false
  generalize session.dequeue .loop = session at waiting
  unfold Session.resumeLoop
  rw [waiting]
  cases requested : session.control.stopRequested with
  | false =>
      refine iff_of_true ⟨none, ?_⟩ rfl
      simp [proceed, requested, park]
  | true =>
      refine iff_of_false ?_ (by simp)
      rintro ⟨due, still⟩
      have goesOn : proceed (.stopped :: rest) alarm session = proceed rest none session := by
        simp [proceed, requested]
      obtain ⟨done, remaining, reached, whole, -, turn⟩ := proceed_runs rest none session
      simp only [goesOn] at still
      rcases turn with ⟨_, parked, -⟩ | ⟨finished, -⟩
      · rw [parked] at still
        cases still
        have longer := congrArg List.length whole
        simp at longer
        omega
      · rw [finished] at still
        cases still

/-- What the function logs in its turn about a request for a stop is the case. -/
theorem stopping_told (session : Session Mark) {requested : Bool}
    (member : .stopping requested
      ∈ (session.move (.resume .loop)).log.drop session.log.length) :
    requested = session.control.stopRequested := by
  have member : .stopping requested
      ∈ (session.dequeue .loop).resumeLoop.log.drop (session.dequeue .loop).log.length := member
  show requested = (session.dequeue .loop).control.stopRequested
  generalize session.dequeue .loop = session at member
  rcases session.resumeLoop_cases with ⟨same, -⟩ | ⟨done, rest, reached, alarm, -, runs, turn⟩
  · rw [same, List.drop_length] at member
    cases member
  · obtain ⟨entries, longer, tells⟩ := runs.tells
    have log : session.resumeLoop.log = session.log ++ entries := by
      rcases turn with ⟨due, parked, -⟩ | ⟨finished, -⟩
      · rw [parked]
        exact longer
      · rw [finished]
        exact longer
    rw [log, List.drop_left] at member
    exact tells requested member

/-! ## The flags -/

/-- What the flags of a supervised loop tell after a run.

- `executed`: what the function has done is its script up to where the loop is;
- `stopping`: a stop is requested iff a stop or a kill has been executed;
- `resolved`, `logged`: this is what the function learns when it waits for a stop, or asks;
- `ending`: the end has begun iff a stop or a kill has been executed, or the function announced
  that it concludes, or it has returned, by a panic or otherwise;
- `finished`: there is a result iff the function has returned, and then the end has begun;
- `lasting`: no flag becomes false again;
- `waiting`: at rest, a call that was not given up waits for the end iff it has not begun, and
  for the result iff there is none and the task is alive;
- `withdrawal`: giving up a call that waits changes nothing for the loop and the others. -/
structure FlagsTell (script : List (LoopAction Mark)) (schedule : List Move)
    (session : Session Mark) : Prop where
  executed : ∃ rest, script = (start script).executed schedule ++ rest
    ∧ ((∃ due, session.loop = .running rest due)
      ∨ (session.loop = .returned ∧ LoopAction.isOver rest) ∨ session.loop = .lost)
  stopping : session.control.stopRequested = true ↔ (start script).stopAsked schedule = true
  resolved : ∀ (rest : List (LoopAction Mark)) (alarm : Option Nat),
    session.loop = .running (.stopped :: rest) alarm →
    ((∃ due, (session.move (.resume .loop)).loop = .running (.stopped :: rest) due)
      ↔ (start script).stopAsked schedule = false)
  logged : ∀ requested : Bool, .stopping requested
      ∈ (session.move (.resume .loop)).log.drop session.log.length →
    requested = (start script).stopAsked schedule
  ending : session.control.ending = true ↔ (start script).stopAsked schedule = true
    ∨ .conclude ∈ (start script).executed schedule ∨ session.loop = .returned
  finished : (session.control.isFinished = true ↔ session.loop = .returned)
    ∧ (session.control.isFinished = true → session.control.ending = true)
  lasting : ∀ later : List Move, Raises session (session.moves later)
  waiting : session.agenda.ready = [] → ∀ (id : Nat) (call : Call),
    session.calls[id]? = some call → call.stage ≠ .dropped →
      (call.request = .ending → (call.isUnfinished = true ↔ session.control.ending = false))
        ∧ (call.request.asksResult = true → (call.isUnfinished = true
          ↔ session.control.isFinished = false ∧ session.loop ≠ .lost))
  withdrawal : ∀ (id : Nat) (call : Call), session.calls[id]? = some call →
    call.awaitsResult = true ∨ call.awaitsEnding = true → ∀ steps : List Step,
      AgreesBut id (steps.foldl Session.perform (session.act (.cancel id)))
        (steps.foldl Session.perform session)

/-- Whatever a supervised function does, and however and in whatever order its handles are
used, the flags tell what has happened. -/
theorem flags_tell_what_happened (script : List (LoopAction Mark)) (schedule : List Move) :
    FlagsTell script schedule ((start script).moves schedule) := by
  have reachable : Reachable script ((start script).moves schedule) :=
    Reachable.started.moves schedule
  have stopping : ((start script).moves schedule).control.stopRequested
      = (start script).stopAsked schedule := by
    rw [Bool.eq_iff_iff, stopRequested_iff]
    exact or_iff_right nofun
  have ending := ending_iff schedule (start script) nofun
  rw [hasReturned_iff, or_iff_right (show ¬(start script).control.ending = true from nofun)]
    at ending
  have finished := reachable.stands.isFinished_iff.trans (hasReturned_iff _)
  constructor
  case executed => exact @executed_whole Mark (start script) schedule _ _ rfl
  case stopping => rw [stopping]
  case resolved => exact fun rest alarm waits => stopping ▸ stopped_resolves waits
  case logged => exact fun requested member => (stopping_told _ member).trans stopping
  case ending => exact ending
  case finished =>
    exact ⟨finished, fun done => ending.mpr (.inr (.inr (finished.mp done)))⟩
  case lasting => exact reachable.raises
  case waiting =>
    intro rests id call found kept
    obtain ⟨forEnding, forResult⟩ := reachable.waits_iff rests found kept
    have alive : ((start script).moves schedule).control.lost = false
        ↔ ((start script).moves schedule).loop ≠ .lost := by
      have stands := reachable.stands
      unfold Stands at stands
      cases loop : ((start script).moves schedule).loop <;> rw [loop] at stands <;> simp [stands.2]
    exact ⟨forEnding, fun asks => by rw [forResult asks, alive]⟩
  case withdrawal =>
    exact fun id call found waits steps => reachable.withdrawal_unnoticed found waits steps

/-- A function that announces that it concludes and then asks whether it has to stop. -/
example : ((start ([.conclude, .isStopping, .gate] : List (LoopAction Nat))).moves
    [.resume .loop]).log = [.stopping false] := by decide

end Session

end BoundedScene.Supervision
