import BoundedScene.Proofs.Handles
import BoundedScene.Proofs.WholeLife

/-!
Contract: the end of the event stream of a scene.

Owns:
- what a receiver obtains from a bus on which nobody can publish any more;
- `CourierMinded`, the invariant that the courier is ready once it has to leave the feed, or
  has nobody to wait for any more;
- that the bus is closed in a scene at rest whose handles, backend and workers are gone.

Does not own: that the workers come to an end.
-/

namespace BoundedScene

namespace Bus

variable {bus : Bus} {receiver : Receiver}

/-- A receiver that is not overtaken reads all that was published, and then the end. -/
theorem drainWithin_of_near {reads : Nat} (near : bus.backlog receiver ≤ bus.slots)
    (enough : bus.backlog receiver < reads) :
    (bus.drainWithin true reads receiver).1
      = (bus.published.drop receiver.position).map Receipt.event ++ [.closed] := by
  induction reads generalizing receiver with
  | zero => exact absurd enough (Nat.not_lt_zero _)
  | succ reads inductionHypothesis =>
      have within : ¬bus.slots < bus.backlog receiver := Nat.not_lt.mpr near
      cases next : bus.published[receiver.position]? with
      | none =>
          have beyond := List.getElem?_eq_none_iff.mp next
          have received : bus.receive true receiver = (.closed, receiver) := by
            rw [receive, if_neg within, next]
            rfl
          rw [drainWithin, received, List.drop_eq_nil_of_le beyond]
          rfl
      | some event =>
          obtain ⟨inside, rfl⟩ := List.getElem?_eq_some_iff.mp next
          have received : bus.receive true receiver
              = (.event bus.published[receiver.position], ⟨receiver.position + 1⟩) := by
            rw [receive, if_neg within, next]
          have shorter : bus.backlog ⟨receiver.position + 1⟩ + 1 = bus.backlog receiver := by
            simp only [backlog]
            omega
          have rest := @inductionHypothesis ⟨receiver.position + 1⟩ (by omega) (by omega)
          rw [drainWithin, received, List.drop_eq_getElem_cons inside]
          exact congrArg (Receipt.event bus.published[receiver.position] :: ·) rest

/-- The events that are kept for a receiver and that it has not read. -/
def keptFor (bus : Bus) (receiver : Receiver) : List Event :=
  bus.published.drop (max receiver.position (bus.published.length - bus.slots))

/-- The gap that a receiver is told about first, if it was overtaken. -/
def gapBefore (bus : Bus) (receiver : Receiver) : List Receipt :=
  if bus.slots < bus.backlog receiver then [.lagged (bus.backlog receiver - bus.slots)] else []

/-- From a bus on which nobody can publish any more a receiver obtains the number of events
that it missed, if it did, then every event that is kept for it, and then the end. -/
theorem drain_closed (bus : Bus) (receiver : Receiver) :
    (bus.drain true receiver).1
      = bus.gapBefore receiver ++ (bus.keptFor receiver).map Receipt.event ++ [.closed] := by
  unfold drain gapBefore keptFor
  by_cases overtaken : bus.slots < bus.backlog receiver
  · have oldest : max receiver.position (bus.published.length - bus.slots)
        = bus.published.length - bus.slots := by
      unfold backlog at overtaken
      omega
    have caughtUp : bus.backlog ⟨bus.published.length - bus.slots⟩ ≤ bus.slots := by
      simp only [backlog]
      omega
    have received : bus.receive true receiver = (.lagged (bus.backlog receiver - bus.slots),
        ⟨bus.published.length - bus.slots⟩) := by
      rw [receive, if_pos overtaken]
    have rest := drainWithin_of_near caughtUp (show _ < bus.backlog receiver + 1 by omega)
    rw [drainWithin, received, if_pos overtaken, oldest]
    exact congrArg (Receipt.lagged (bus.backlog receiver - bus.slots) :: ·) rest
  · have near := Nat.not_lt.mp overtaken
    have oldest : bus.published.drop (max receiver.position (bus.published.length - bus.slots))
        = bus.published.drop receiver.position := by
      unfold backlog at near
      congr 1
      omega
    rw [if_neg overtaken, oldest, List.nil_append]
    exact drainWithin_of_near near (by omega)

/-- A receiver is overtaken at the end, obtains a gap, two events and the end. -/
example :
    (({ slots := 2, published := [.plain .sceneStarted, .plain .sceneEnding,
      .plain .sceneEnded] } : Bus).drain true ⟨0⟩).1
      = [.lagged 1, .event (.plain .sceneEnding), .event (.plain .sceneEnded), .closed] := by
  decide

end Bus

open Delivery (Fed LastFed)

namespace Delivery

variable {before after : Delivery}

/-! ## Workers and courier -/

theorem workersGone_of_work (index : Nat) (delivery : Delivery)
    (gone : (resumeLane index delivery).workersGone = true)
    (joining : (resumeLane index delivery).courier = .joining) :
    delivery.workersGone = true ∨ .courier ∈ (resumeLane index delivery).woken := by
  have lanes := lanes_resumeLane index delivery
  cases already : delivery.workersGone with
  | true => exact .inl rfl
  | false =>
      right
      -- The worker that had its turn was the last one.
      unfold workersGone at gone already
      rw [lanes] at gone
      obtain ⟨lane, member, live⟩ := List.all_eq_false.mp already
      obtain ⟨position, found⟩ := List.mem_iff_getElem?.mp member
      have own : position = index := by
        by_contra other
        have kept : lane ∈ delivery.lanes.modify index fun lane => lane.work.1 := by
          apply List.mem_of_getElem? (i := position)
          simp [Ne.symm other, found]
        exact live (List.all_eq_true.mp gone lane kept)
      subst own
      have worked : lane.work.1 ∈ delivery.lanes.modify position fun lane => lane.work.1 := by
        apply List.mem_of_getElem? (i := position)
        simp [found]
      have finished := List.all_eq_true.mp gone _ worked
      unfold resumeLane at joining ⊢
      rw [found] at joining ⊢
      dsimp only at joining ⊢
      rw [(wakeIf_reports ..).courier] at joining
      have wakes : (lane.isLive && !lane.work.1.isLive
          && (lane.work.2.foldl report (delivery.setLane position lane.work.1)).isJoining) = true := by
        simp_all [isJoining]
      unfold wakeIf
      rw [if_pos wakes]
      exact List.mem_append_right _ (List.mem_singleton.mpr rfl)

/-- What a turn of the courier leads to: it is at the feed and has to go on, or was not
told to end, or it waits for a worker, or it is where nothing has to be done any more. -/
theorem resumeCourier_outcome (delivery : Delivery)
    (placed : delivery.courier = .forwarding ∨ delivery.isAway) :
    (delivery.resumeCourier.courier = .forwarding
        ∧ (.courier ∈ delivery.resumeCourier.woken ∨ delivery.ended = false))
      ∨ (delivery.resumeCourier.courier = .joining
        ∧ delivery.resumeCourier.workersGone = false)
      ∨ delivery.resumeCourier.courier = .finished
      ∨ delivery.resumeCourier.courier = .lost := by
  have joins (delivery : Delivery) :
      delivery.join.courier = .joining ∧ delivery.join.workersGone = false
        ∨ delivery.join.courier = .finished := by
    have lanes : delivery.join.workersGone = delivery.workersGone := rfl
    rw [lanes]
    unfold join
    cases delivery.workersGone with
    | true => exact .inr rfl
    | false => exact .inl ⟨rfl, rfl⟩
  unfold resumeCourier
  rcases placed with forwarding | (joining | finished) | lost
  · rw [forwarding]
    dsimp only
    obtain ⟨position, reported⟩ :=
      ({ delivery with courier := .carrying } : Delivery).carry_frame delivery.reads
    obtain ⟨reached, -, outcome⟩ :=
      ({ delivery with courier := .carrying } : Delivery).carry_reads delivery.reads
    split
    case isTrue => exact .inr ((joins _).imp_right .inl)
    case isFalse stays =>
      refine .inl ⟨rfl, ?_⟩
      rcases outcome with cut | ⟨whole, -⟩
      · left
        rw [cut]
        exact List.mem_append_right _ (List.mem_singleton.mpr rfl)
      · right
        rw [whole] at stays reported
        have untold : reached.ended = false := by
          cases told : reached.ended with
          | false => rfl
          | true => simp [told] at stays
        exact reported.ended.symm.trans untold
  · rw [joining]
    exact .inr ((joins delivery).imp_right .inl)
  · rw [finished]
    exact .inr (.inr (.inl finished))
  · rw [lost]
    exact .inr (.inr (.inr lost))

theorem workersGone_permit (delivery : Delivery) (index count : Nat) :
    (delivery.permit index count).workersGone = delivery.workersGone := by
  have live (lane : Lane) : (lane.permit count).isLive = lane.isLive := by
    unfold Lane.permit
    split <;> rfl
  unfold workersGone
  rw [lanes_permit, Bool.eq_iff_iff, List.all_eq_true, List.all_eq_true]
  constructor
  · intro gone lane member
    obtain ⟨position, found⟩ := List.mem_iff_getElem?.mp member
    by_cases own : index = position
    · have permitted : lane.permit count
          ∈ delivery.lanes.modify index fun lane => lane.permit count := by
        apply List.mem_of_getElem? (i := position)
        simp [own, found]
      have finished := gone _ permitted
      rwa [live] at finished
    · apply gone lane
      apply List.mem_of_getElem? (i := position)
      simp [own, found]
  · intro gone lane member
    obtain ⟨earlier, present, same | same⟩ := mem_of_mem_modify member
    · exact same ▸ gone earlier present
    · rw [same, live]
      exact gone earlier present

end Delivery

namespace Session

variable {V : Type} {session before after : Session V} {task : SceneTask}

/-! ## Who is ready stays ready -/

theorem ready_resumeCall (id : Nat) (ready : task ∈ session.agenda.ready) :
    task ∈ (session.resumeCall id).agenda.ready := by
  cases found : session.calls[id]? with
  | none =>
      unfold resumeCall
      rwa [found]
  | some call =>
      obtain ⟨log, changes, mailbox, turn, growth, -⟩ := session.resumeCall_turnsBy id call found
      exact growth.ready _ ready

/-! ## The courier is told -/

theorem storeResult_awakes (own : Except SceneError Unit)
    (forwarding : (session.storeResult own).delivery.courier = .forwarding) :
    .delivery .courier ∈ (session.storeResult own).agenda.ready := by
  have same : session.delivery.tellEnd.courier = session.delivery.courier :=
    (Delivery.wakeIf_reports { session.delivery with ended := true } _ _).courier
  have waits : session.delivery.courier = .forwarding := same.symm.trans forwarding
  refine Agenda.mem_wakeAll.mpr (.inl (List.mem_map_of_mem ?_))
  show DeliveryTask.courier ∈ session.delivery.tellEnd.woken
  unfold Delivery.tellEnd Delivery.wakeIf
  simp [Delivery.isForwarding, waits, Delivery.wake]

theorem EndCause.awakes {log : List (Happening V)} {heralds : List Event}
    {error : Option SceneError} (cause : EndCause before log heralds error after)
    (forwarding : after.delivery.courier = .forwarding) :
    .delivery .courier ∈ after.agenda.ready := by
  cases cause with
  | stopped => exact storeResult_awakes _ forwarding
  | timedOut => exact storeResult_awakes _ forwarding
  | abandoned => exact storeResult_awakes _ forwarding

/-- Once the backend has returned, the courier goes on until it has finished.

- `placed`: it waits at the feed or has left it for good;
- `told`: it is told to end;
- `awake`: it is ready while it is at the feed;
- `joins`: it is ready once the last worker, for which it waits, is gone. -/
structure Escorted (session : Session V) : Prop where
  placed : session.delivery.courier = .forwarding ∨ session.delivery.isAway
  told : session.backend = .returned → session.delivery.ended = true
  awake : session.backend = .returned → session.delivery.courier = .forwarding →
    .delivery .courier ∈ session.agenda.ready
  joins : session.delivery.courier = .joining → session.delivery.workersGone = true →
    .delivery .courier ∈ session.agenda.ready

/-- A step in which the courier stays where it is and no worker goes. -/
theorem Escorted.keep (escorted : before.Escorted)
    (courier : after.delivery.courier = before.delivery.courier)
    (lanes : after.delivery.workersGone = before.delivery.workersGone)
    (told : after.backend = .returned → after.delivery.ended = true)
    (awake : after.backend = .returned → after.delivery.courier = .forwarding →
      .delivery .courier ∈ after.agenda.ready)
    (ready : .delivery .courier ∈ before.agenda.ready →
      .delivery .courier ∈ after.agenda.ready) : after.Escorted where
  placed := by
    unfold Delivery.isAway Delivery.isDone
    rw [courier]
    exact escorted.placed
  told := told
  awake := awake
  joins joining gone := ready (escorted.joins (courier.symm.trans joining) (lanes.symm.trans gone))

/-- Nothing is done to the courier, or it is fed. -/
theorem Escorted.fed (escorted : before.Escorted) (fed : Fed before.delivery after.delivery)
    (backend : after.backend = .returned → before.backend = .returned)
    (ready : .delivery .courier ∈ before.agenda.ready →
      .delivery .courier ∈ after.agenda.ready) : after.Escorted := by
  obtain ⟨feed, woken, -, same⟩ := fed
  have courier : after.delivery.courier = before.delivery.courier := by rw [same]
  have lanes : after.delivery.workersGone = before.delivery.workersGone := by
    rw [same]
    rfl
  refine escorted.keep courier lanes (fun returned => ?_) (fun returned forwarding => ?_) ready
  · rw [same]
    exact escorted.told (backend returned)
  · exact ready (escorted.awake (backend returned) (courier.symm.trans forwarding))

theorem Escorted.ends {log : List (Happening V)} {heralds : List Event}
    {error : Option SceneError} (escorted : before.Escorted)
    (cause : EndCause before log heralds error after) : after.Escorted := by
  obtain ⟨fed, ⟨feed, woken, -, rfl⟩, woken', same⟩ := cause.tells
  have courier : after.delivery.courier = before.delivery.courier := by rw [same]
  have lanes : after.delivery.workersGone = before.delivery.workersGone := by
    rw [same]
    rfl
  refine escorted.keep courier lanes (fun _ => ?_) (fun _ forwarding => cause.awakes forwarding)
    (cause.evolves.ready _)
  rw [same]

theorem Escorted.serve (escorted : session.Escorted) (commands : Nat)
    (serving : session.isServing) : (session.serve commands).Escorted :=
  serve_induction Escorted
    (fun {reached envelope rest} held serving _ _ _ => by
      obtain ⟨backend, -, growth⟩ := serveOne_evolves serving envelope rest
      refine held.fed (reached.serveOne_fed envelope rest) (fun returned => ?_) (growth.ready _)
      exact absurd (serveOne_isServing serving envelope rest) (not_serving_of_returned returned))
    (fun held _ cause => held.ends cause) commands serving escorted

theorem Escorted.resumeBackend (escorted : session.Escorted) :
    session.resumeBackend.Escorted := by
  unfold Session.resumeBackend
  cases state : session.backend with
  | fresh =>
      have opened : session.openUp.Escorted := by
        refine escorted.fed (publish_fed _ _) (fun returned => ?_) (session.openUp_evolves.ready _)
        cases returned
      exact opened.serve _ ⟨_, _, rfl⟩
  | serving absolute inactivity => exact escorted.serve _ ⟨_, _, state⟩
  | _ => exact escorted

/-- Who is woken in a turn of the delivery is ready after it. -/
theorem courier_ready_of_woken {task : DeliveryTask}
    (awake : .courier ∈ (Delivery.resume task session.delivery).woken) :
    .delivery .courier ∈ (session.move (.resume (.delivery task))).agenda.ready :=
  Agenda.mem_wakeAll.mpr (.inl (List.mem_map_of_mem awake))

/-- The last worker wakes the courier that waits for it; the courier stays where it is. -/
theorem Escorted.turnLane (escorted : session.Escorted) (index : Nat) :
    (session.move (.resume (.delivery (.lane index)))).Escorted := by
  have kept (ready : .delivery .courier ∈ session.agenda.ready) :
      .delivery .courier ∈ (session.move (.resume (.delivery (.lane index)))).agenda.ready :=
    Agenda.mem_wakeAll.mpr (.inr ((List.mem_erase_of_ne (by simp)).mpr ready))
  have delivery : (session.move (.resume (.delivery (.lane index)))).delivery
      = { Delivery.resume (.lane index) session.delivery with woken := [] } := rfl
  obtain ⟨_, _, reported⟩ := Delivery.resume_frame (.lane index) session.delivery
  have same : (Delivery.resume (.lane index) session.delivery).courier
      = session.delivery.courier := (Delivery.resumeLane_reports index _).courier
  constructor
  case placed =>
    rw [delivery]
    unfold Delivery.isAway Delivery.isDone
    dsimp only
    rw [same]
    exact escorted.placed
  case told => exact fun returned => reported.ended.trans (escorted.told returned)
  case awake =>
    exact fun returned forwarding => kept (escorted.awake returned (same.symm.trans forwarding))
  case joins =>
    intro joining gone
    rcases Delivery.workersGone_of_work index session.delivery gone joining with already | awake
    · exact kept (escorted.joins (same.symm.trans joining) already)
    · exact courier_ready_of_woken awake

/-- A courier that is told to end leaves the feed, or wakes itself again. -/
theorem Escorted.turnCourier (escorted : session.Escorted) :
    (session.move (.resume (.delivery .courier))).Escorted := by
  have delivery : (session.move (.resume (.delivery .courier))).delivery
      = { session.delivery.resumeCourier with woken := [] } := rfl
  obtain ⟨_, _, reported⟩ := Delivery.resume_frame .courier session.delivery
  have outcome := session.delivery.resumeCourier_outcome escorted.placed
  constructor
  case placed =>
    rw [delivery]
    unfold Delivery.isAway Delivery.isDone
    rcases outcome with ⟨forwarding, -⟩ | ⟨joining, -⟩ | finished | lost
    · exact .inl forwarding
    · exact .inr (.inl (.inl joining))
    · exact .inr (.inl (.inr finished))
    · exact .inr (.inr lost)
  case told => exact fun returned => reported.ended.trans (escorted.told returned)
  case awake =>
    intro returned forwarding
    replace forwarding : session.delivery.resumeCourier.courier = .forwarding := forwarding
    rcases outcome with ⟨-, awake | untold⟩ | ⟨joining, -⟩ | finished | lost
    · exact courier_ready_of_woken awake
    · rw [escorted.told returned] at untold
      cases untold
    · cases joining.symm.trans forwarding
    · cases finished.symm.trans forwarding
    · cases lost.symm.trans forwarding
  case joins =>
    intro joining gone
    replace joining : session.delivery.resumeCourier.courier = .joining := joining
    replace gone : session.delivery.resumeCourier.workersGone = true := gone
    rcases outcome with ⟨forwarding, -⟩ | ⟨-, present⟩ | finished | lost
    · cases forwarding.symm.trans joining
    · cases present.symm.trans gone
    · cases finished.symm.trans joining
    · cases lost.symm.trans joining

theorem Escorted.turn (escorted : session.Escorted) (task : DeliveryTask) :
    (session.move (.resume (.delivery task))).Escorted := by
  cases task with
  | lane index => exact escorted.turnLane index
  | courier => exact escorted.turnCourier

theorem Escorted.permit (escorted : session.Escorted) (lane count : Nat) :
    (session.act (.release lane count)).Escorted := by
  have reported := session.delivery.permit_reports lane count
  have kept (ready : .delivery .courier ∈ session.agenda.ready) :
      .delivery .courier ∈ (session.act (.release lane count)).agenda.ready :=
    Agenda.mem_wakeAll.mpr (.inr ready)
  constructor
  case placed =>
    rcases escorted.placed with forwarding | (joining | finished) | lost
    · exact .inl (reported.courier.trans forwarding)
    · exact .inr (.inl (.inl (reported.courier.trans joining)))
    · exact .inr (.inl (.inr (reported.courier.trans finished)))
    · exact .inr (.inr (reported.courier.trans lost))
  case told => exact fun returned => reported.ended.trans (escorted.told returned)
  case awake =>
    exact fun returned forwarding =>
      kept (escorted.awake returned (reported.courier.symm.trans forwarding))
  case joins =>
    intro joining gone
    have same := session.delivery.workersGone_permit lane count
    exact kept (escorted.joins (reported.courier.symm.trans joining) (same.symm.trans gone))

theorem Escorted.dropTasks (escorted : session.Escorted) : session.dropTasks.Escorted := by
  have gone : session.dropTasks.delivery.courier = .finished
      ∨ session.dropTasks.delivery.courier = .lost := by
    show (if session.delivery.courierRuns then Courier.lost else session.delivery.courier)
        = .finished ∨ (if session.delivery.courierRuns then Courier.lost
          else session.delivery.courier) = .lost
    rcases escorted.placed with forwarding | (joining | finished) | lost
    · simp [Delivery.courierRuns, forwarding]
    · simp [Delivery.courierRuns, joining]
    · simp [Delivery.courierRuns, finished]
    · simp [Delivery.courierRuns, lost]
  constructor
  case placed => exact .inr (gone.elim (fun finished => .inl (.inr finished)) .inr)
  case told => exact fun returned => escorted.told (backend_dropTasks_returned.mp returned)
  case awake =>
    intro _ forwarding
    rcases gone with finished | lost
    · cases finished.symm.trans forwarding
    · cases lost.symm.trans forwarding
  case joins =>
    intro joining
    rcases gone with finished | lost
    · cases finished.symm.trans joining
    · cases lost.symm.trans joining

theorem Escorted.act (escorted : session.Escorted) (deed : Deed V) :
    (session.act deed).Escorted := by
  cases deed with
  | call request =>
      refine escorted.fed (.refl _) id fun ready => ?_
      exact (session.makeCall_evolves request).ready _ ready
  | cancel id =>
      refine escorted.fed (.of_same (session.delivery_cancel id)) (returned_of_act (.cancel id)) ?_
      show _ → .delivery .courier ∈ (session.cancel id).agenda.ready
      cases found : session.calls[id]? with
      | none =>
          unfold cancel
          rw [found]
          exact fun ready => ready
      | some call =>
          cases unfinished : call.isUnfinished with
          | true => exact (session.cancel_evolves found unfinished).1.ready _
          | false =>
              unfold cancel
              rw [found]
              simp [unfinished]
  | clone => exact escorted.fed (.refl _) id id
  | drop handle =>
      refine escorted.fed (.of_same (delivery_noteHandles _)) (returned_of_act (.drop handle))
        fun ready => ?_
      exact (noteHandles_evolves { session with handles := session.handles.set handle false }).ready
        _ ready
  | release lane count => exact escorted.permit lane count
  | dropTasks => exact escorted.dropTasks

theorem Escorted.move (escorted : session.Escorted) (move : Move V) :
    (session.move move).Escorted := by
  have dequeued {task : SceneTask} (other : task ≠ .delivery .courier) :
      (session.dequeue task).Escorted := by
    refine escorted.fed (.refl _) id fun ready => ?_
    exact (List.mem_erase_of_ne other.symm).mpr ready
  cases move with
  | act deed => exact escorted.act deed
  | resume task =>
      cases task with
      | backend => exact (dequeued (by simp)).resumeBackend
      | call id =>
          have earlier : (session.dequeue (.call id)).Escorted := dequeued (by simp)
          refine earlier.fed ((session.dequeue (.call id)).resumeCall_fed id) (fun returned => ?_)
            (ready_resumeCall id)
          exact returned_of_resumeCall id returned
      | delivery task => exact escorted.turn task
  | serve commands =>
      unfold Session.move
      dsimp only
      split
      case h_1 absolute inactivity state =>
        exact (escorted.serve commands ⟨_, _, state⟩).fed (.refl _) id
          fun ready => Agenda.mem_wakeAll.mpr (.inr ready)
      case h_2 => exact escorted
  | reach instant =>
      exact escorted.fed (.refl _) id fun ready => Agenda.mem_wakeAll.mpr (.inr ready)

theorem escorted_of_create? {settings : Settings} {profiles : List Profile}
    {visiting : VisitingOrder V} (created : create? settings profiles visiting = some session) :
    session.Escorted := by
  unfold create? at created
  split at created
  case isFalse => cases created
  case isTrue =>
    obtain ⟨feed, fed, rfl⟩ := Option.map_eq_some_iff.mp created
    have placed : (if profiles.isEmpty then Courier.finished else .forwarding) = .forwarding
        ∨ (if profiles.isEmpty then Courier.finished else .forwarding) = .finished := by
      cases profiles.isEmpty with
      | true => exact .inr rfl
      | false => exact .inl rfl
    constructor
    case placed => exact placed.imp_right fun finished => .inl (.inr finished)
    case told => nofun
    case awake => nofun
    case joins =>
      intro joining
      rcases placed with forwarding | finished
      · cases forwarding.symm.trans joining
      · cases finished.symm.trans joining

theorem Reachable.escorted (reachable : Reachable session) : session.Escorted := by
  induction reachable with
  | created created => exact escorted_of_create? created
  | moved move _ inductionHypothesis => exact inductionHypothesis.move move

/-- In a scene at rest whose backend has returned, the bus is closed once no handle and no
worker is left. -/
theorem Reachable.busClosed (reachable : Reachable session)
    (idle : session.agenda.ready = []) (returned : session.backend = .returned)
    (unheld : session.anyHandle = false) (gone : session.delivery.workersGone = true) :
    session.busClosed = true := by
  have escorted := reachable.escorted
  have asleep : .delivery .courier ∉ session.agenda.ready := by simp [idle]
  have left : session.delivery.courier = .finished ∨ session.delivery.courier = .lost := by
    rcases escorted.placed with forwarding | (joining | finished) | lost
    · exact absurd (escorted.awake returned forwarding) asleep
    · exact absurd (escorted.joins joining gone) asleep
    · exact .inl finished
    · exact .inr lost
  have released : session.delivery.isReleased = true := by
    unfold Delivery.isReleased
    rcases left with finished | lost
    · simp [finished, gone]
    · simp [lost, gone]
  simp [Session.busClosed, unheld, released, backendRuns, returned]

end Session

end BoundedScene
