import BoundedScene.Proofs.Capacity.Journey

/-!
Contract: akin scenes that go on come to rest as twins.

Owns:
- `Brisk`, a scene in which no command took any time, and that a brisk run is a journey;
- `Issued`, the order in which commands are processed;
- what becomes of a scene whose callers and whose backend are done.

Main statement: `Akin.run`.

Does not own: the scenes that a settling starts from.
-/

namespace BoundedScene

namespace Happening

variable {V : Type}

theorem elapsed_of_brief {log : List (Happening V)}
    (brief : ∀ happening ∈ log, happening.duration = 0) : elapsed log = 0 := by
  induction log with
  | nil => rfl
  | cons first rest inductionHypothesis =>
      rw [elapsed, brief first (List.mem_cons_self ..),
        inductionHypothesis fun happening member => brief happening (List.mem_cons_of_mem _ member)]

end Happening

namespace Session

variable {V : Type} {session left right before after last result : Session V}
  {limits : TimeoutKind → Option Span}

/-! ## Brisk runs -/

/-- No cleanup that was run before the scene started to end let time pass. -/
def Brisk (session : Session V) : Prop :=
  ∀ happening ∈ session.happenings.takeWhile fun happening => !happening.beginsEnding,
    happening.duration = 0

instance (session : Session V) : Decidable session.Brisk :=
  inferInstanceAs (Decidable (∀ happening ∈ List.takeWhile _ _, Happening.duration happening = 0))

/-- What had happened before the scene started to end had happened briskly. -/
theorem Brisk.brief (brisk : result.Brisk) (within : session.happenings <+: result.happenings)
    (ongoing : ∀ happening ∈ session.happenings, happening.beginsEnding = false)
    {happening : Happening V} (member : happening ∈ session.happenings) :
    happening.duration = 0 := by
  apply brisk
  obtain ⟨later, split⟩ := within
  have all : session.happenings.takeWhile (fun happening => !happening.beginsEnding)
      = session.happenings :=
    List.takeWhile_eq_self_iff.mpr fun happening member => by simp [ongoing happening member]
  rw [← split, List.takeWhile_append, all, if_pos rfl]
  exact List.mem_append_left _ member

theorem Brisk.of_prefix (brisk : after.Brisk) (within : before.happenings <+: after.happenings) :
    before.Brisk := by
  intro happening member
  apply brisk
  obtain ⟨later, split⟩ := within
  rw [← split, List.takeWhile_append]
  split
  case isTrue => exact List.mem_append_left _ (List.takeWhile_prefix _ |>.subset member)
  case isFalse => exact member

/-- Serving a command does not make a docile scene start to end. -/
theorem Going.ongoing_serveOne {envelope : Envelope V} {rest : Mailbox (Envelope V) × Option Nat}
    (going : session.Going limits) (takes : session.Takes envelope rest) :
    ∀ happening ∈ (session.serveOne envelope rest).happenings, happening.beginsEnding = false := by
  have unstopped : session.control.stopRequested = false := by rw [going.control]
  have passed : Passed (session.serveOne envelope rest) :=
    going.passed.advance (.processes takes.serving unstopped going.undue takes.taken)
  obtain ⟨backend, -, growth⟩ := serveOne_evolves takes.serving envelope rest
  have docile : (session.serveOne envelope rest).Docile :=
    passed.docile ((requests_of_evolves growth rfl).symm ▸ going.requests)
  have control := docile.control passed.steered
    (serveOne_isServing takes.serving envelope rest).runs
  intro happening member
  by_contra begins
  have ending := passed.steered.ending_iff.mpr ⟨happening, member, by simpa using begins⟩
  rw [control] at ending
  cases ending

/-- In a brisk run, commands take no time, so it is a journey. -/
theorem Brisk.tracks (brisk : result.Brisk) (start : Session V) :
    Tracks limits result (Journey limits start) where
  silent held akin := held.tail (.silent akin)
  opens held going fresh unready := held.tail (.opens going fresh unready)
  serves {session envelope rest} held going takes within := by
    obtain ⟨backend, -, growth⟩ := serveOne_evolves takes.serving envelope rest
    have happenings : (session.serveOne envelope rest).happenings
        = session.happenings ++ session.serveLog envelope := growth.happenings
    have instant : Happening.elapsed (session.serveLog envelope) = 0 := by
      refine Happening.elapsed_of_brief fun happening member => ?_
      apply brisk.brief within (going.ongoing_serveOne takes)
      rw [happenings]
      exact List.mem_append_right _ member
    exact ⟨instant, held.tail (.serves going takes instant)⟩

/-- A scene that is akin to one on a journey stays so. -/
theorem Arrived.tracks (arrived : last.Arrived limits) (result : Session V) :
    Tracks limits result fun session =>
      ∃ first, Akin first session ∧ Journey limits first last where
  silent := fun ⟨first, akin, journey⟩ step => ⟨first, akin.trans step, journey⟩
  opens := fun ⟨_, akin, journey⟩ going fresh unready =>
    journey.opens arrived.serving akin going fresh unready
  serves := fun ⟨_, akin, journey⟩ going takes _ =>
    journey.serves arrived.idle akin going takes

/-! ## The order of the commands -/

theorem filterMap_backendRecords {α : Type} {read : Happening V → Option α}
    (backends : ∀ happening, (read happening).isSome = true → happening.isBackends = true)
    (session : Session V) :
    session.happenings.filterMap read
      = session.backendRecords.filterMap fun record => read record.happening := by
  unfold happenings backendRecords
  rw [List.filterMap_map, List.filterMap_filter]
  refine List.filterMap_congr fun record _ => ?_
  show read record.happening = _
  split
  case isTrue => rfl
  case isFalse others =>
    cases found : read record.happening with
    | none => rfl
    | some value => exact absurd (backends record.happening (by rw [found]; rfl)) others

theorem Kindred.ledger (kindred : Kindred left right) : left.ledger = right.ledger := by
  have backends (happening : Happening V) :
      happening.processed?.isSome = true → happening.isBackends = true := by
    cases happening <;> first | exact fun _ => rfl | nofun
  unfold Session.ledger
  rw [filterMap_backendRecords backends, filterMap_backendRecords backends, kindred.records]

/-- Commands have been processed, and will be, in the order in which they were issued. -/
def Issued (session : Session V) : Prop :=
  (session.ledger.map Processed.caller ++ session.line).Pairwise (· < ·)

theorem Issued.leg (issued : before.Issued) (leg : Leg limits before after) : after.Issued := by
  unfold Issued at issued ⊢
  cases leg with
  | silent akin =>
      rw [← akin.toKindred.ledger, ← akin.line]
      exact issued
  | opens going fresh unready =>
      have happenings := before.openUp_evolves.happenings
      have unread : [(Happening.opened : Happening V)].filterMap Happening.processed? = [] := rfl
      rw [ledger_of_happenings before happenings, unread, List.append_nil,
        (going.opened unready).2.1]
      exact issued
  | @serves envelope rest going takes instant =>
      obtain ⟨backend, -, growth⟩ := serveOne_evolves takes.serving envelope rest
      rw [ledger_of_happenings before growth.happenings, before.processed_serveLog,
        List.map_append, List.append_assoc]
      rw [(going.served takes).2.1] at issued
      exact issued

theorem Issued.journey (issued : before.Issued) (journey : Journey limits before after) :
    after.Issued := by
  induction journey with
  | refl => exact issued
  | tail _ leg inductionHypothesis => exact inductionHypothesis.leg leg

/-! ## The end for want of handles -/

/-- Nobody has anything left to do. -/
structure Over (session : Session V) : Prop where
  halted : session.backendRuns = false
  calls : ∀ (id : Nat) (call : Call V), session.calls[id]? = some call → call.isUnfinished = false

/-- The scene once the last tasks have found that they have nothing to do. -/
def stilled (session : Session V) : Session V :=
  { session with agenda := { ready := [], clock := session.clock.reach session.clock.now } }

theorem Over.withAgenda (ceased : session.Over) (agenda : Agenda SceneTask) :
    ({ session with agenda } : Session V).Over :=
  ⟨ceased.halted, ceased.calls⟩

theorem Over.resume (ceased : session.Over) {task : SceneTask} (own : task.isOwn = true) :
    Session.resume task session = session := by
  cases task with
  | delivery task => cases own
  | backend =>
      have halted := ceased.halted
      show session.resumeBackend = session
      unfold backendRuns at halted
      unfold resumeBackend
      cases backend : session.backend with
      | fresh => simp [backend] at halted
      | serving absolute inactivity => simp [backend] at halted
      | returned => rfl
      | lost => rfl
  | call id =>
      show session.resumeCall id = session
      unfold resumeCall
      cases found : session.calls[id]? with
      | none => rfl
      | some call =>
          have finished := ceased.calls id call found
          unfold Call.isUnfinished at finished
          split at finished
          case h_1 stage => simp only [stage]
          case h_2 stage => simp only [stage]
          case h_3 => cases finished

/-- Nobody waits for anything. -/
theorem Over.alarms (ceased : session.Over) : session.alarms = [] := by
  have unset : (List.range session.calls.length).filterMap (fun id =>
      (session.calls[id]?.bind Call.deadline?).map fun due =>
        (⟨due, .call id⟩ : Alarm SceneTask)) = [] := by
    refine List.filterMap_eq_nil_iff.mpr fun id _ => ?_
    cases found : session.calls[id]? with
    | none => rfl
    | some call =>
        have finished := ceased.calls id call found
        unfold Call.isUnfinished at finished
        rw [Option.bind_some, Option.map_eq_none_iff]
        unfold Call.deadline?
        split at finished <;> simp_all
  have halted := ceased.halted
  unfold backendRuns at halted
  unfold Session.alarms
  rw [unset]
  split at halted
  case h_1 => cases halted
  case h_2 => cases halted
  case h_3 fresh serving =>
    split
    case h_1 absolute inactivity backend => exact absurd backend (serving absolute inactivity)
    case h_2 => rfl

theorem reach_now_of_current {clock : Clock} (current : clock.isBehind = false) :
    clock.reach clock.now = clock := by
  have seen : clock.millisecond ≤ clock.noticed := Nat.not_lt.mp (of_decide_eq_false current)
  unfold Clock.millisecond at seen
  unfold Clock.reach
  rw [Nat.max_self]
  dsimp only
  rw [Nat.max_eq_left seen]

theorem current_reach_now (clock : Clock) : (clock.reach clock.now).isBehind = false := by
  refine decide_eq_false (Nat.not_lt.mpr ?_)
  show max clock.now clock.now / _ ≤ _
  exact Nat.le_max_right _ _

/-- The clock catches up, and nobody is woken. -/
theorem Over.reach (ceased : session.Over) :
    Turns.reach session.clock.now session
      = { session with
          agenda := { session.agenda with clock := session.clock.reach session.clock.now } } := by
  let clock := session.clock.reach session.clock.now
  have nobody : Turns.dueOwners
      ({ session with agenda := { session.agenda with clock } } : Session V) = [] := by
    have alarms := (ceased.withAgenda { session.agenda with clock }).alarms
    unfold Turns.dueOwners
    show List.map _ (List.mergeSort (List.filter _ (Session.alarms _)) _) = _
    rw [alarms, List.filter_nil, List.mergeSort_nil, List.map_nil]
  show Turns.wakeAll _ (Turns.dueOwners
    ({ session with agenda := { session.agenda with clock } } : Session V)) = _
  rw [nobody]
  rfl

/-- Where nobody has anything left to do, a run to rest only empties the run queue. -/
theorem Over.run {turns : Nat} (ceased : session.Over)
    (own : ∀ task ∈ session.agenda.ready, task.isOwn = true)
    (rests : Turns.turn? (Turns.run turns session) = none) :
    Turns.run turns session = session.stilled := by
  have resting {session : Session V} (stays : Turns.turn? session = none) :
      session = session.stilled := by
    obtain ⟨ready, current⟩ := Turns.idle_of_rest stays
    have idle : session.agenda.ready = [] := ready
    have clock : session.clock.reach session.clock.now = session.clock :=
      reach_now_of_current current
    unfold stilled
    rw [clock, ← idle]
    rfl
  induction turns generalizing session with
  | zero => exact resting rests
  | succ turns inductionHypothesis =>
      cases turn : Turns.turn? session with
      | none =>
          rw [Turns.run_of_rest turn]
          exact resting turn
      | some next =>
          rw [Turns.run_of_turn turn] at rests ⊢
          unfold Turns.turn? at turn
          split at turn
          case h_1 task later ready =>
            replace ready : session.agenda.ready = task :: later := ready
            have still := ceased.withAgenda { session.agenda with ready := later }
            have same := still.resume (own task (ready ▸ List.mem_cons_self ..))
            obtain rfl : session.handOver later = next := same.symm.trans (Option.some.inj turn)
            exact inductionHypothesis still
              (fun task member => own task (ready ▸ List.mem_cons_of_mem _ member)) rests
          case h_2 ready =>
            split at turn
            case isFalse => cases turn
            case isTrue =>
              obtain rfl := Option.some.inj turn
              have reached := ceased.reach
              change Turns.reach (Turns.clock session).now session = _ at reached
              rw [reached] at rests ⊢
              have clock := reach_now_of_current (current_reach_now session.clock)
              have caughtUp := ceased.withAgenda
                { session.agenda with clock := session.clock.reach session.clock.now }
              refine (inductionHypothesis caughtUp own rests).trans ?_
              unfold stilled
              exact congrArg (fun clock : Clock =>
                ({ session with agenda := { ready := [], clock } } : Session V)) clock

/-! ## Akin scenes come to rest -/

/-- Akin scenes that have arrived are twins, but for the tasks that are ready. -/
theorem Akin.twins (akin : Akin left right) (leftArrived : left.Arrived limits)
    (rightArrived : right.Arrived limits) : Twins False left right :=
  { akin.toKindred with
    calls := by rw [← leftArrived.still, akin.prospects, rightArrived.still]
    ready := False.elim
    leftBlank := leftArrived.blank
    rightBlank := rightArrived.blank }

/-- Twins are akin. -/
theorem Twins.akin (twins : Twins True left right) : Akin left right :=
  { twins.toKindred with
    prospects := by
      unfold prospects
      rw [twins.calls, twins.clock, twins.phase]
    line := by
      unfold line newcomers
      rw [twins.leftBlank.queued, twins.leftBlank.granted, twins.leftBlank.waiting,
        twins.rightBlank.queued, twins.rightBlank.granted, twins.rightBlank.waiting, twins.calls,
        twins.ready trivial] }

section Abandoned

variable (arrived : last.Arrived limits) (unheld : last.anyHandle = false)
include arrived unheld

theorem Arrived.endCause : EndCause last [.concluded none] [] none last.abandoned := by
  have unstopped : last.control.stopRequested = false := by rw [arrived.going.control]
  exact .abandoned unstopped arrived.going.undue arrived.blank.take? unheld

/-- A scene that ended for want of handles is over. -/
theorem Arrived.over : last.abandoned.Over := by
  have cause := arrived.endCause unheld
  constructor
  case halted =>
    unfold backendRuns
    rw [cause.backend]
  case calls =>
    intro id call found
    obtain ⟨old, present, stage, -⟩ :=
      origin_of_unmoved cause.evolves.calls (last.unmoved_endChanges id) found
    have finished := (unheld_iff.mp unheld).calls id old present
    unfold Call.isUnfinished at finished ⊢
    rwa [← stage]

theorem Arrived.ledger_abandoned : last.abandoned.ledger = last.ledger :=
  (arrived.endCause unheld).ledger

end Abandoned

theorem ledger_stilled (session : Session V) : session.stilled.ledger = session.ledger :=
  rfl

theorem Twins.stilled (twins : Twins False left right) : Twins True left.stilled right.stilled := by
  have clock := twins.clock
  exact
    { twins with
      clock := congrArg (fun clock : Clock => clock.reach clock.now) clock
      ready := fun _ => rfl }

/-- Where commands are processed in the order in which they were issued. -/
def InIssueOrder (session : Session V) : Prop :=
  (session.ledger.map Processed.caller).Pairwise (· < ·)

theorem Issued.inIssueOrder (issued : session.Issued) : session.InIssueOrder :=
  (List.pairwise_append.mp issued).1

/-- What a scene comes to whose calls are done, or that rests. -/
theorem ComesTo.stilled (comes : last.ComesTo limits result)
    (rests : Turns.turn? result = none) :
    last.anyHandle = true ∧ result = last ∧ last.agenda.ready = []
      ∨ last.anyHandle = false ∧ result = last.abandoned.stilled := by
  cases comes with
  | rests arrived held ready => exact .inl ⟨held, rfl, ready⟩
  | abandons arrived unheld orderly turns =>
      exact .inr ⟨unheld, (arrived.over unheld).run (fun _ => orderly.unwatched.isOwn) rests⟩

theorem ComesTo.arrived (comes : last.ComesTo limits result) : last.Arrived limits := by
  cases comes <;> assumption

/-- Akin scenes that go on come to rest as twins if one of them does so briskly, and they
process their commands in the order in which they were issued. -/
theorem Akin.run {leftTurns rightTurns : Nat} (akin : Akin left right)
    (leftOrderly : left.Orderly) (rightOrderly : right.Orderly) (leftGoing : left.Going limits)
    (rightGoing : right.Going limits) (issued : left.Issued)
    (leftRests : Turns.turn? (Turns.run leftTurns left) = none)
    (rightRests : Turns.turn? (Turns.run rightTurns right) = none)
    (brisk : (Turns.run leftTurns left).Brisk) :
    Twins True (Turns.run leftTurns left) (Turns.run rightTurns right)
      ∧ (Turns.run leftTurns left).InIssueOrder := by
  obtain ⟨leftLast, journey, leftComes⟩ :=
    (brisk.tracks left).follow leftTurns .refl leftOrderly leftGoing leftRests rfl
  have leftArrived := leftComes.arrived
  obtain ⟨rightLast, ⟨first, near, onward⟩, rightComes⟩ :=
    (leftArrived.tracks (Turns.run rightTurns right)).follow rightTurns ⟨left, akin, journey⟩
      rightOrderly rightGoing rightRests rfl
  have rightArrived := rightComes.arrived
  have together : Akin leftLast rightLast :=
    onward.akin_of_idle near rightArrived.serving rightArrived.idle
  have twins := together.twins leftArrived rightArrived
  have ordered := (issued.journey journey).inIssueOrder
  rcases leftComes.stilled leftRests with ⟨held, leftEnd, leftReady⟩ | ⟨unheld, leftEnd⟩
  · rcases rightComes.stilled rightRests with ⟨-, rightEnd, rightReady⟩ | ⟨none, -⟩
    · rw [leftEnd, rightEnd]
      refine ⟨{ twins with ready := fun _ => ?_ }, ordered⟩
      rw [leftReady, rightReady]
    · rw [twins.anyHandle, none] at held
      cases held
  · rcases rightComes.stilled rightRests with ⟨held, -⟩ | ⟨-, rightEnd⟩
    · rw [twins.anyHandle, held] at unheld
      cases unheld
    · rw [leftEnd, rightEnd]
      refine ⟨((twins.conclude none).finish none).stilled, ?_⟩
      unfold InIssueOrder at ordered ⊢
      rw [ledger_stilled, leftArrived.ledger_abandoned unheld]
      exact ordered

end Session

end BoundedScene
