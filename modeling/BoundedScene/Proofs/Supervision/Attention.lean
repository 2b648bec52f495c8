import BoundedScene.Proofs.Supervision.Steps

/-!
Contract: no task of a supervised session is forgotten.

Owns:
- `IsIdle`, the calls that would stay where they are;
- `Attentive`, the invariant that whoever does not have to wait is ready.

Main statement: `Reachable.attentive`.

Does not own: what the calls are answered, and that the ready tasks run out.
-/

namespace BoundedScene.Supervision

namespace Session

variable {Mark : Type}

/-! ## Whoever does not have to wait is ready -/

/-- A call that would stay where it is if it had a turn. -/
def IsIdle (session : Session Mark) (call : Call) : Prop :=
  match call.stage with
  | .fresh => False
  | .awaitingResult => session.control.result? (.abandoned Abandonment.dropped) = none
  | .awaitingEnding => session.control.ending = false
  | .finished _ _ => True
  | .dropped => True

/-- The loop and the calls are ready or have to wait, except perhaps the task whose turn
it is. -/
structure Attentive (session : Session Mark) (busy : Option Task) : Prop where
  loop : ∀ remaining alarm, session.loop = .running remaining alarm → busy ≠ some .loop →
    .loop ∈ session.agenda.ready ∨ session.Waits remaining alarm
  calls : ∀ id call, session.calls[id]? = some call → busy ≠ some (.call id) →
    .call id ∈ session.agenda.ready ∨ session.IsIdle call

/-- Whoever had to wait and does not have to wait any more was woken. -/
structure Alerts (before after : Session Mark) : Prop where
  ready : ∀ task ∈ before.agenda.ready, task ∈ after.agenda.ready
  loop : ∀ remaining alarm, before.loop = .running remaining alarm →
    before.Waits remaining alarm → .loop ∈ after.agenda.ready ∨ after.Waits remaining alarm
  calls : ∀ id call, before.calls[id]? = some call → before.IsIdle call →
    .call id ∈ after.agenda.ready ∨ after.IsIdle call

variable {before after session : Session Mark} {busy : Option Task}

theorem Attentive.alerts (attentive : before.Attentive busy) (alerts : Alerts before after)
    (sameLoop : after.loop = before.loop) (sameCalls : after.calls = before.calls) :
    after.Attentive busy where
  loop remaining alarm running idle := by
    rw [sameLoop] at running
    rcases attentive.loop remaining alarm running idle with ready | waits
    · exact .inl (alerts.ready _ ready)
    · exact alerts.loop remaining alarm running waits
  calls id call found idle := by
    rw [sameCalls] at found
    rcases attentive.calls id call found idle with ready | stays
    · exact .inl (alerts.ready _ ready)
    · exact alerts.calls id call found stays

theorem mem_callTasks {test : Call → Bool} {id : Nat} {call : Call}
    (found : session.calls[id]? = some call) (tested : test call = true) :
    .call id ∈ session.callTasks test := by
  have inside : id < session.calls.length := (List.getElem?_eq_some_iff.mp found).1
  have present : session.calls[id]?.any test = true := by rw [found]; exact tested
  exact List.mem_map_of_mem (List.mem_filter.mpr ⟨List.mem_range.mpr inside, present⟩)

/-- A change of the control surface wakes whoever it concerns. -/
theorem updateControl_alerts {control : Control LoopError} {woken : List Task}
    (stop : control.stopRequested = true →
      session.control.stopRequested = true ∨ .loop ∈ woken)
    (ending : control.ending = true → session.control.ending = true
      ∨ session.callTasks Call.awaitsEnding ⊆ woken)
    (result : control.result? (.abandoned Abandonment.dropped)
        = session.control.result? (.abandoned Abandonment.dropped)
      ∨ session.callTasks Call.awaitsResult ⊆ woken) :
    Alerts session (session.updateControl control woken) where
  ready task ready := Agenda.mem_wakeAll.mpr (.inr ready)
  loop remaining alarm _ waits := by
    by_cases raised : control.stopRequested = true ∧ session.control.stopRequested = false
    · have woken := (stop raised.1).resolve_left (by simp [raised.2])
      exact .inl (Agenda.mem_wakeAll.mpr (.inl woken))
    · refine .inr (waits.mono (fun unrequested => ?_) (fun due _ undue => ?_) id)
      · exact Bool.eq_false_iff.mpr fun requested => raised ⟨requested, unrequested⟩
      · rwa [clock_updateControl]
  calls id call found idle := by
    have woken {test : Call → Bool} (tested : test call = true)
        (all : session.callTasks test ⊆ woken) :
        .call id ∈ (session.updateControl control woken).agenda.ready :=
      Agenda.mem_wakeAll.mpr (.inl (all (mem_callTasks found tested)))
    obtain ⟨request, stage⟩ := call
    cases stage with
    | fresh => exact idle.elim
    | awaitingResult =>
        rcases result with same | all
        · exact .inr (same.trans idle)
        · exact .inl (woken rfl all)
    | awaitingEnding =>
        cases begun : control.ending with
        | false => exact .inr begun
        | true =>
            rcases ending begun with already | all
            · exact absurd already (by rw [show session.control.ending = false from idle]; simp)
            · exact .inl (woken rfl all)
    | finished => exact .inr trivial
    | dropped => exact .inr trivial

/-- A request for a stop, with an error or without one, wakes the loop and whoever waits
for the shutdown. -/
theorem request_alerts {control : Control LoopError}
    (result : control.result? (.abandoned Abandonment.dropped)
      = session.control.result? (.abandoned Abandonment.dropped)) :
    Alerts session (session.updateControl control session.stopWatchers) := by
  refine updateControl_alerts (fun _ => ?_) (fun _ => ?_) (.inl result)
  · cases requested : session.control.stopRequested with
    | true => exact .inl rfl
    | false => exact .inr (by simp [stopWatchers, requested])
  · cases begun : session.control.ending with
    | true => exact .inl rfl
    | false =>
        refine .inr fun task member => List.mem_append_right _ ?_
        simpa [endingWatchers, begun] using member

theorem Executes.alerts {action : LoopAction Mark} (executes : Executes before action after) :
    Alerts before after := by
  cases executes with
  | gate permitted =>
      exact ⟨fun _ ready => ready,
        fun _ _ _ waits => .inr (waits.mono id (fun _ _ => id) fun shut => by simp [shut]),
        fun _ _ _ idle => .inr idle⟩
  | conclude =>
      refine updateControl_alerts .inl (fun _ => ?_) (.inl rfl)
      cases begun : before.control.ending with
      | true => exact .inl rfl
      | false => exact .inr (by simp [endingWatchers, begun])
  | _ => exact ⟨fun _ ready => ready, fun _ _ _ => .inr, fun _ _ _ => .inr⟩

theorem Attentive.runs {done : List (LoopAction Mark)} (attentive : before.Attentive busy)
    (runs : Runs before done after) : after.Attentive busy := by
  induction runs with
  | nil => exact attentive
  | cons first rest inductionHypothesis =>
      exact inductionHypothesis
        (attentive.alerts first.alerts first.spares.loop first.spares.calls)

/-! ## Turns -/

theorem Attentive.dequeue (attentive : session.Attentive none) (task : Task) :
    (session.dequeue task).Attentive (some task) where
  loop remaining alarm running idle := by
    rcases attentive.loop remaining alarm running nofun with ready | waits
    · exact .inl ((List.mem_erase_of_ne fun same => idle (congrArg some same.symm)).mpr ready)
    · exact .inr waits
  calls id call found idle := by
    rcases attentive.calls id call found nofun with ready | stays
    · exact .inl ((List.mem_erase_of_ne fun same => idle (congrArg some same.symm)).mpr ready)
    · exact .inr stays

/-- After its turn the loop waits or is over. -/
theorem Attentive.resumeLoop (attentive : session.Attentive (some .loop)) :
    session.resumeLoop.Attentive none := by
  unfold Session.resumeLoop
  split
  case h_1 remaining alarm running =>
    obtain ⟨done, rest, reached, -, runs, turn⟩ := proceed_runs remaining alarm session
    have later := attentive.runs runs
    rcases turn with ⟨due, parked, waits⟩ | ⟨finished, -⟩
    · rw [parked]
      refine ⟨?_, fun id call found _ => later.calls id call found nofun⟩
      rintro _ _ ⟨⟩ _
      exact .inr waits
    · rw [finished]
      have returned : ({ reached with loop := .returned } : Session Mark).Attentive none :=
        ⟨nofun, fun id call found _ => later.calls id call found nofun⟩
      refine returned.alerts (updateControl_alerts .inl (fun _ => ?_) (.inr ?_)) rfl rfl
      · cases begun : reached.control.ending with
        | true => exact .inl rfl
        | false =>
            refine .inr fun task member => List.mem_append_left _ ?_
            rwa [endingWatchers, begun]
      · exact List.subset_append_right _ _
  case h_2 ceased =>
    refine ⟨fun remaining alarm running => absurd running (ceased remaining alarm), ?_⟩
    exact fun id call found _ => attentive.calls id call found nofun

/-- A call that stays where its turn left it has had its turn. -/
theorem Attentive.setStage {id : Nat} {stage : Stage}
    (attentive : session.Attentive (some (.call id)))
    (idle : ∀ request, session.IsIdle ⟨request, stage⟩) :
    (session.setStage id stage).Attentive none where
  loop remaining alarm running _ := attentive.loop remaining alarm running nofun
  calls other call found _ := by
    by_cases same : other = id
    · subst same
      have found : (session.calls.modify other fun call => { call with stage })[other]?
        = some call := found
      rw [List.getElem?_modify_eq] at found
      obtain ⟨old, -, rfl⟩ := Option.map_eq_some_iff.mp found
      exact .inr (idle old.request)
    · have found : (session.calls.modify id fun call => { call with stage })[other]?
        = some call := found
      rw [List.getElem?_modify_ne _ _ (Ne.symm same)] at found
      exact attentive.calls other call found fun busy => same (by cases busy; rfl)

theorem resultStage_idle (session : Session Mark) (request : Request) :
    session.IsIdle ⟨request, session.resultStage⟩ := by
  unfold resultStage
  split
  · trivial
  case h_2 unset => exact unset

theorem endingStage_idle (session : Session Mark) (request : Request) :
    session.IsIdle ⟨request, session.endingStage⟩ := by
  unfold endingStage
  split
  · trivial
  case isFalse unended => simpa [IsIdle] using unended

theorem idle_of_ceased {call : Call} (ceased : call.isUnfinished = false) :
    session.IsIdle call := by
  obtain ⟨request, stage⟩ := call
  cases stage <;> trivial

/-- After its turn a call waits or is over. -/
theorem Attentive.turn {id : Nat} {call : Call} (attentive : before.Attentive (some (.call id)))
    (found : before.calls[id]? = some call) (turn : before.Turn id call after) :
    after.Attentive none := by
  cases turn with
  | stops =>
      have asked : before.asked.Attentive (some (.call id)) :=
        attentive.alerts (request_alerts rfl) rfl rfl
      exact asked.setStage before.asked.resultStage_idle
  | @kills message =>
      have struck : (before.struck message).Attentive (some (.call id)) :=
        attentive.alerts (request_alerts rfl) rfl rfl
      exact struck.setStage fun _ => trivial
  | waits => exact attentive.setStage before.resultStage_idle
  | watches => exact attentive.setStage before.endingStage_idle
  | looks => exact attentive.setStage fun _ => trivial
  | ceased ceased =>
      refine ⟨fun remaining alarm running _ => attentive.loop remaining alarm running nofun, ?_⟩
      intro other present there _
      by_cases same : other = id
      · subst same
        rw [found] at there
        cases there
        exact .inr (idle_of_ceased ceased)
      · exact attentive.calls other present there fun busy => same (by cases busy; rfl)

/-! ## Moves -/

theorem Attentive.call (attentive : session.Attentive none) (request : Request) :
    (session.act (.call request)).Attentive none where
  loop remaining alarm running _ := by
    rcases attentive.loop remaining alarm running nofun with ready | waits
    · exact .inl (Agenda.mem_wakeAll.mpr (.inr ready))
    · exact .inr (waits.mono id (fun _ _ undue => by rwa [act, clock_wakeAll]) id)
  calls id call found _ := by
    have found : (session.calls ++ [⟨request, .fresh⟩])[id]? = some call := found
    rcases Nat.lt_trichotomy id session.calls.length with older | same | beyond
    · rw [List.getElem?_append_left older] at found
      rcases attentive.calls id call found nofun with ready | stays
      · exact .inl (Agenda.mem_wakeAll.mpr (.inr ready))
      · exact .inr stays
    · exact .inl (Agenda.mem_wakeAll.mpr (.inl (by simp [same])))
    · rw [List.getElem?_eq_none (by simpa using Nat.succ_le_of_lt beyond)] at found
      cases found

theorem Attentive.cancel (attentive : session.Attentive none) (id : Nat) :
    (session.act (.cancel id)).Attentive none where
  loop remaining alarm running _ := attentive.loop remaining alarm running nofun
  calls other call found _ := by
    by_cases same : other = id
    · subst same
      obtain ⟨old, -, rfl⟩ := Option.map_eq_some_iff.mp
        ((List.getElem?_modify_eq ..).symm.trans found)
      refine .inr (idle_of_ceased ?_)
      split
      · rfl
      case isFalse ceased => simpa using ceased
    · have untouched := (List.getElem?_modify_ne _ _ (Ne.symm same)).symm.trans found
      exact attentive.calls other call untouched nofun

theorem Attentive.permit (attentive : session.Attentive none) (count : Nat) :
    (session.act (.permit count)).Attentive none where
  loop _ _ _ _ := .inl (Agenda.mem_wakeAll.mpr (.inl (List.mem_singleton.mpr rfl)))
  calls id call found _ := by
    rcases attentive.calls id call found nofun with ready | stays
    · exact .inl (Agenda.mem_wakeAll.mpr (.inr ready))
    · exact .inr stays

theorem dropTasks_attentive (session : Session Mark) : session.dropTasks.Attentive none where
  loop remaining alarm running _ := by
    unfold dropTasks at running
    dsimp only at running
    split at running
    · cases running
    case h_2 ceased => exact absurd running (ceased remaining alarm)
  calls id call found _ := by
    obtain ⟨old, -, rfl⟩ := Option.map_eq_some_iff.mp ((List.getElem?_map ..).symm.trans found)
    refine .inr (idle_of_ceased ?_)
    split
    · rfl
    case isFalse ceased => simpa using ceased

theorem mem_alarms {remaining : List (LoopAction Mark)} {due : Nat}
    (running : session.loop = .running remaining (some due)) :
    (⟨due, .loop⟩ : Alarm Task) ∈ Turns.alarms session := by
  show _ ∈ session.alarms
  simp [alarms, running]

theorem Attentive.reach (attentive : session.Attentive none) (instant : Nat) :
    (Turns.reach instant session).Attentive none where
  loop remaining alarm running _ := by
    rcases attentive.loop remaining alarm running nofun with ready | waits
    · exact .inl (Agenda.mem_wakeAll.mpr (.inr ready))
    · let moved := Turns.withClock session ((Turns.clock session).reach instant)
      by_cases lapsed : ∃ due, alarm = some due ∧ moved.clock.isDue due = true
      · obtain ⟨due, rfl, lapsed⟩ := lapsed
        have armed : (⟨due, .loop⟩ : Alarm Task) ∈ Turns.alarms moved := mem_alarms running
        exact .inl (Agenda.mem_wakeAll.mpr (.inl (Turns.mem_dueOwners armed lapsed)))
      · refine .inr (waits.mono id (fun due armed _ => ?_) id)
        rw [show (Turns.reach instant session).clock = moved.clock from Agenda.clock_wakeAll _ _]
        exact Bool.eq_false_iff.mpr fun due' => lapsed ⟨due, armed, due'⟩
  calls id call found _ := by
    rcases attentive.calls id call found nofun with ready | stays
    · exact .inl (Agenda.mem_wakeAll.mpr (.inr ready))
    · exact .inr stays

theorem Attentive.move (attentive : session.Attentive none) (move : Move) :
    (session.move move).Attentive none := by
  cases move with
  | reach instant => exact attentive.reach instant
  | act deed =>
      cases deed with
      | call request => exact attentive.call request
      | cancel id => exact attentive.cancel id
      | permit count => exact attentive.permit count
      | dropTasks => exact session.dropTasks_attentive
  | resume task =>
      have busy := attentive.dequeue task
      cases task with
      | loop => exact busy.resumeLoop
      | call id =>
          show ((session.dequeue (.call id)).resumeCall id).Attentive none
          cases found : session.calls[id]? with
          | some call => exact busy.turn found (resumeCall_turn found)
          | none =>
              rw [resumeCall_none (show (session.dequeue (.call id)).calls[id]? = none from found)]
              refine ⟨fun remaining alarm running _ => busy.loop remaining alarm running nofun, ?_⟩
              intro other call present _
              refine busy.calls other call present fun same => ?_
              cases same
              cases found.symm.trans present

/-- Whoever can go on is ready, at every moment of every run. -/
theorem Reachable.attentive {script : List (LoopAction Mark)}
    (reachable : Reachable script session) : session.Attentive none := by
  induction reachable with
  | started => exact ⟨fun _ _ _ _ => .inl (List.mem_singleton.mpr rfl), nofun⟩
  | moved move _ inductionHypothesis => exact inductionHypothesis.move move

end Session

end BoundedScene.Supervision
