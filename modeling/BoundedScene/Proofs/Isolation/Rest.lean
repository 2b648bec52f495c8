import BoundedScene.Proofs.Isolation.Outlook
import Mathlib.Data.List.Perm.Subperm

/-!
Contract: a fan-out whose reports go to a bus of their own comes to rest.

Owns:
- `Delivery.Calls`, a delivery that goes on and wakes nobody but its workers;
- `Fanout.Steady`, what holds of a fan-out between its turns;
- `Fanout.toil`, the turns that are ahead, which every turn makes fewer.

Main statement: `settles`.

Does not own: what the turns are good for.
-/

namespace BoundedScene

namespace Delivery

variable {delivery before middle after : Delivery}

/-! ## Whom a courier wakes -/

/-- The workers that have not finished. -/
def liveLanes (delivery : Delivery) : Nat :=
  delivery.lanes.countP Lane.isLive

/-- The delivery goes on, and wakes nobody but its workers, none of which finishes. -/
structure Calls (before after : Delivery) : Prop where
  apart : after.reports.isSome = before.reports.isSome
  length : after.lanes.length = before.lanes.length
  live : after.liveLanes = before.liveLanes
  woken : ∀ task ∈ after.woken, task ∈ before.woken ∨ task ∈ before.workerTasks

theorem Calls.trans (early : Calls before middle) (late : Calls middle after) :
    Calls before after where
  apart := late.apart.trans early.apart
  length := late.length.trans early.length
  live := late.live.trans early.live
  woken task member := by
    have workers : middle.workerTasks = before.workerTasks := by
      unfold workerTasks
      rw [early.length]
    rcases late.woken task member with old | worker
    · exact early.woken task old
    · exact .inr (workers ▸ worker)

/-- Whoever only changes what concerns the courier wakes nobody. -/
theorem Calls.still (reports : after.reports = before.reports) (lanes : after.lanes = before.lanes)
    (woken : after.woken = before.woken) : Calls before after where
  apart := by rw [reports]
  length := by rw [lanes]
  live := by rw [liveLanes, liveLanes, lanes]
  woken task member := .inl (woken ▸ member)

theorem calls_serveAll {change : Lane → Lane} {tells : Lane → Option Event} {wakes : Lane → Bool}
    (live : ∀ lane, (change lane).isLive = lane.isLive) (delivery : Delivery) :
    Calls delivery (delivery.serveAll change tells wakes) where
  apart := apart_serveAll ..
  length := List.length_map _
  live := by
    unfold liveLanes serveAll
    rw [List.countP_map]
    exact congrArg (List.countP · _) (funext live)
  woken task member := by
    refine (List.mem_append.mp member).imp id fun woken => ?_
    obtain ⟨⟨lane, index⟩, present, named⟩ := List.mem_filterMap.mp woken
    have inside : index < delivery.lanes.length := by simpa using (List.mem_zipIdx present).2.1
    dsimp only at named
    split at named
    · cases named
      exact List.mem_map_of_mem (List.mem_range.mpr inside)
    · cases named

theorem isLive_offer (lane : Lane) (event : Event) :
    (lane.offer event).2.isLive = lane.isLive := by
  unfold Lane.offer
  split
  · rfl
  · split <;> rfl

theorem calls_emit (apart : delivery.reports.isSome = true) (event : Event) :
    Calls delivery (delivery.emit event) := by
  rw [emit_eq apart]
  exact calls_serveAll (fun lane => isLive_offer lane event) _

theorem calls_miss (apart : delivery.reports.isSome = true) (missed : Nat) :
    Calls delivery (delivery.miss missed) := by
  rw [miss_eq apart]
  exact calls_serveAll (fun lane => show (lane.miss missed).isLive = lane.isLive from rfl) _

theorem calls_of_reads (apart : before.reports.isSome = true)
    (reads : Relation.ReflTransGen Read before after) : Calls before after := by
  induction reads with
  | refl => exact .still rfl rfl rfl
  | @tail reached after _ last inductionHypothesis =>
      have further := inductionHypothesis.apart.trans apart
      refine inductionHypothesis.trans ?_
      cases last with
      | hands =>
          have moved : Calls reached { reached with position := ⟨reached.position.position + 1⟩ } :=
            .still rfl rfl rfl
          exact moved.trans
            (@calls_emit { reached with position := ⟨reached.position.position + 1⟩ } further _)
      | @skips missed =>
          have moved : Calls reached
              { reached with position := ⟨reached.position.position + missed⟩ } :=
            .still rfl rfl rfl
          exact moved.trans (@calls_miss
            { reached with position := ⟨reached.position.position + missed⟩ } further missed)

theorem calls_closeQueues_join (delivery : Delivery) :
    Calls delivery delivery.closeQueues.join := by
  have joined : Calls delivery.closeQueues delivery.closeQueues.join := .still rfl rfl rfl
  refine Calls.trans ?_ joined
  rw [closeQueues_eq]
  exact calls_serveAll (fun lane => show lane.close.isLive = lane.isLive from rfl) delivery

/-- The courier reads the feed or is about to close the queues. -/
def isBusy (delivery : Delivery) : Bool :=
  delivery.courier == .forwarding || delivery.courier == .closing

theorem calls_resumeCourier (apart : delivery.reports.isSome = true)
    (busy : delivery.isBusy = true) : Calls delivery delivery.resumeCourier := by
  rw [isBusy, Bool.or_eq_true, beq_iff_eq, beq_iff_eq] at busy
  rcases busy with forwarding | closing
  · let carrying : Delivery := { delivery with courier := .carrying }
    have further : carrying.reports.isSome = true := apart
    obtain ⟨whole, -⟩ := @alone_carry carrying false 0 [] delivery.reads delivery.reads further
      delivery.enough_reads delivery.enough_reads
    obtain ⟨reached, reads, cut | ⟨carried, -⟩⟩ := carrying.carry_reads delivery.reads
    · rw [cut] at whole
      cases whole
    · have begun : Calls delivery carrying := .still rfl rfl rfl
      have ceased : Calls reached { reached with courier := .forwarding } := .still rfl rfl rfl
      have read := (begun.trans (calls_of_reads further reads)).trans ceased
      rw [resumeCourier_forwarding forwarding carried]
      split
      · exact read.trans (calls_closeQueues_join _)
      · exact read
  · unfold resumeCourier
    rw [closing]
    exact calls_closeQueues_join delivery

/-- A courier that has nothing to do wakes nobody. -/
theorem still_resumeCourier (idle : delivery.isBusy = false) :
    delivery.resumeCourier.lanes = delivery.lanes
      ∧ delivery.resumeCourier.reports = delivery.reports
      ∧ delivery.resumeCourier.woken = delivery.woken
      ∧ delivery.resumeCourier.isBusy = false := by
  unfold isBusy at idle
  unfold resumeCourier
  cases courier : delivery.courier with
  | forwarding => simp [courier] at idle
  | closing => simp [courier] at idle
  | joining =>
      refine ⟨rfl, rfl, rfl, ?_⟩
      unfold join isBusy
      dsimp only
      cases delivery.workersGone <;> rfl
  | _ => exact ⟨rfl, rfl, rfl, by simp [isBusy, courier]⟩

/-! ## Whom a worker wakes -/

/-- One item changes, and is counted or not. -/
theorem countP_modify {α : Type} (counts : α → Bool) (change : α → α) {items : List α}
    {index : Nat} {item : α} (found : items[index]? = some item) :
    (items.modify index change).countP counts + (if counts item then 1 else 0)
      = items.countP counts + if counts (change item) then 1 else 0 := by
  induction items generalizing index with
  | nil => cases found
  | cons first rest inductionHypothesis =>
      cases index with
      | zero =>
          cases found
          simp only [List.modify_zero_cons, List.countP_cons]
          omega
      | succ index =>
          have later := @inductionHypothesis index (by simpa using found)
          simp only [List.modify_succ_cons, List.countP_cons]
          omega

/-- A worker calls for the courier only when it finishes, and only if the courier waits. -/
theorem resumeLane_wakes (apart : delivery.reports.isSome = true) (index : Nat) :
    ∃ called : List DeliveryTask, (resumeLane index delivery).woken = delivery.woken ++ called
      ∧ called.length + (resumeLane index delivery).liveLanes ≤ delivery.liveLanes
      ∧ (called ≠ [] → delivery.isJoining = true) := by
  cases found : delivery.lanes[index]? with
  | none => exact ⟨[], by simp [resumeLane, found]⟩
  | some lane =>
      have further : (delivery.setLane index lane.work.1).reports.isSome = true := apart
      have ages : lane.isLive = false → lane.work.1.isLive = false :=
        Lane.Change.gone .worked
      have live := countP_modify Lane.isLive (fun lane => lane.work.1) found
      rw [← lanes_resumeLane] at live
      have woken : (resumeLane index delivery).woken = delivery.woken
          ++ if lane.isLive && !lane.work.1.isLive && delivery.isJoining then [.courier]
            else [] := by
        simp only [resumeLane, found, foldl_report further]
        show (wakeIf _ (lane.isLive && !lane.work.1.isLive && delivery.isJoining) _).woken = _
        cases (lane.isLive && !lane.work.1.isLive && delivery.isJoining) <;>
          simp [wakeIf, wake, reportApart, setLane]
      refine ⟨_, woken, ?_, fun called => ?_⟩
      · have one : (if lane.isLive && !lane.work.1.isLive && delivery.isJoining then
              [DeliveryTask.courier] else []).length + (if lane.work.1.isLive then 1 else 0)
            ≤ if lane.isLive then 1 else 0 := by
          cases before : lane.isLive with
          | false => simp [ages before]
          | true => cases lane.work.1.isLive <;> cases delivery.isJoining <;> simp
        unfold liveLanes
        omega
      · by_contra waits
        simp [waits] at called

end Delivery

namespace Fanout

variable {fanout next : Fanout}

/-! ## Between turns -/

/-- What a turn of a fan-out is made of. -/
theorem resume_parts (task : DeliveryTask) (fanout : Fanout) :
    (fanout.resume task).agenda
        = fanout.agenda.wakeAll (Delivery.resume task fanout.delivery).woken
      ∧ (fanout.resume task).delivery
        = { Delivery.resume task fanout.delivery with woken := [] }
      ∧ (fanout.resume task).errand = fanout.errand := by
  unfold resume noteCompletion
  split <;> exact ⟨rfl, rfl, rfl⟩

/-- What holds of a fan-out between its turns.

- `apart`: its reports go to a bus of their own;
- `absorbed`: whoever was woken is on the agenda;
- `distinct`: nobody is on the agenda twice;
- `current`: no time has passed that nobody noticed. -/
structure Steady (fanout : Fanout) : Prop where
  apart : fanout.delivery.reports.isSome = true
  absorbed : fanout.delivery.woken = []
  distinct : fanout.agenda.ready.Nodup
  current : fanout.agenda.clock.isBehind = false

theorem Steady.update (steady : fanout.Steady) {change : Delivery → Delivery}
    (apart : (change fanout.delivery).reports.isSome = true) : (fanout.update change).Steady where
  apart := apart
  absorbed := rfl
  distinct := Agenda.nodup_wakeAll steady.distinct _
  current := by
    show (fanout.agenda.wakeAll _).clock.isBehind = false
    rw [Agenda.clock_wakeAll]
    exact steady.current

theorem Steady.noteCompletion (steady : fanout.Steady) : fanout.noteCompletion.Steady := by
  unfold Fanout.noteCompletion
  split
  · exact ⟨steady.apart, steady.absorbed, steady.distinct, steady.current⟩
  · exact steady

theorem Steady.dequeue {task : DeliveryTask} {later : List DeliveryTask} (steady : fanout.Steady)
    (ready : fanout.agenda.ready = task :: later) :
    ({ fanout with agenda := { fanout.agenda with ready := later } } : Fanout).Steady :=
  ⟨steady.apart, steady.absorbed, (List.nodup_cons.mp (ready ▸ steady.distinct)).2,
    steady.current⟩

/-- A fan-out waits for no time. -/
theorem reach_eq (instant : Nat) (fanout : Fanout) :
    Turns.reach instant fanout
      = { fanout with
          agenda := { fanout.agenda with clock := fanout.agenda.clock.reach instant } } := by
  have idle (world : Fanout) : Turns.dueOwners world = [] := by
    simp [Turns.dueOwners, Turns.alarms]
  unfold Turns.reach
  simp only [idle]
  rfl

theorem steady_keeps : Turns.Keeps Steady where
  resume {_ task _} steady ready :=
    ((steady.dequeue ready).update
      ((Delivery.tells_resume steady.apart task).apart.trans steady.apart)).noteCompletion
  reach instant steady := by
    rw [reach_eq]
    refine ⟨steady.apart, steady.absorbed, steady.distinct, ?_⟩
    exact decide_eq_false (Nat.not_lt.mpr (Nat.le_max_right _ _))

/-- Who is on the agenda if only tasks from a list were woken. -/
theorem length_wakeAll_of_subset {agenda : Agenda DeliveryTask} {tasks workers : List DeliveryTask}
    (distinct : agenda.ready.Nodup) (among : ∀ task ∈ tasks, task ∈ workers) :
    (agenda.wakeAll tasks).ready.length ≤ agenda.ready.length + workers.length := by
  obtain ⟨woken, whole, all, called⟩ := Agenda.wakeAll_behind distinct tasks
  have single := (List.nodup_append.mp all).2.1
  have subset : woken ⊆ workers := fun task member => among task (called task member)
  rw [whole, List.length_append]
  have few := (single.subperm subset).length_le
  omega

/-! ## The turns ahead -/

/-- The turns that are ahead where some tasks are ready: theirs, that of the courier once for
each worker that finishes, and those of the workers that a busy courier may call. -/
def toil (ready : List DeliveryTask) (delivery : Delivery) : Nat :=
  ready.length + delivery.liveLanes
    + if delivery.isBusy ∧ .courier ∈ ready then delivery.lanes.length else 0

theorem toil_resumeLane {agenda : Agenda DeliveryTask} {delivery : Delivery} (index : Nat)
    (apart : delivery.reports.isSome = true) (absorbed : delivery.woken = []) :
    toil (agenda.wakeAll (Delivery.resumeLane index delivery).woken).ready
        (Delivery.resumeLane index delivery)
      < toil (.lane index :: agenda.ready) delivery := by
  obtain ⟨called, woken, fewer, waits⟩ := Delivery.resumeLane_wakes apart index
  have courier := (Delivery.resumeLane_reports index delivery).courier
  have lanes := congrArg List.length (Delivery.lanes_resumeLane index delivery)
  rw [List.length_modify] at lanes
  have busy : (Delivery.resumeLane index delivery).isBusy = delivery.isBusy := by
    rw [Delivery.isBusy, courier, Delivery.isBusy]
  have longer := agenda.length_wakeAll called
  have seen : DeliveryTask.courier ∈ .lane index :: agenda.ready ↔ .courier ∈ agenda.ready := by
    simp
  rw [absorbed, List.nil_append] at woken
  unfold toil
  rw [busy, lanes, woken, List.length_cons]
  simp only [seen]
  by_cases nobody : called = []
  · subst nobody
    have same : (agenda.wakeAll ([] : List DeliveryTask)).ready = agenda.ready := rfl
    rw [same]
    simp only [List.length_nil] at fewer
    omega
  · have idle : delivery.isBusy = false := by
      have waits := waits nobody
      rw [Delivery.isJoining, beq_iff_eq] at waits
      rw [Delivery.isBusy, waits]
      rfl
    simp only [idle, Bool.false_eq_true, false_and, if_false]
    omega

theorem toil_resumeCourier {agenda : Agenda DeliveryTask} {delivery : Delivery}
    (apart : delivery.reports.isSome = true) (absorbed : delivery.woken = [])
    (distinct : (DeliveryTask.courier :: agenda.ready).Nodup) :
    toil (agenda.wakeAll delivery.resumeCourier.woken).ready delivery.resumeCourier
      < toil (.courier :: agenda.ready) delivery := by
  obtain ⟨absent, distinct⟩ := List.nodup_cons.mp distinct
  unfold toil
  cases busy : delivery.isBusy with
  | true =>
      have calls := Delivery.calls_resumeCourier apart busy
      have workers (task : DeliveryTask) (member : task ∈ delivery.resumeCourier.woken) :
          task ∈ delivery.workerTasks := by
        rcases calls.woken task member with old | worker
        · rw [absorbed] at old
          cases old
        · exact worker
      have few := length_wakeAll_of_subset distinct workers
      have gone : DeliveryTask.courier ∉ (agenda.wakeAll delivery.resumeCourier.woken).ready := by
        intro present
        rcases Agenda.mem_wakeAll.mp present with called | waits
        · obtain ⟨index, -, impossible⟩ := List.mem_map.mp (workers _ called)
          cases impossible
        · exact absent waits
      have size : delivery.workerTasks.length = delivery.lanes.length := by
        simp [Delivery.workerTasks]
      rw [if_neg fun both => gone both.2, if_pos ⟨rfl, List.mem_cons_self⟩, calls.live,
        List.length_cons]
      omega
  | false =>
      obtain ⟨lanes, -, woken, idle⟩ := Delivery.still_resumeCourier busy
      have same : (agenda.wakeAll ([] : List DeliveryTask)).ready = agenda.ready := rfl
      have live : delivery.resumeCourier.liveLanes = delivery.liveLanes := by
        rw [Delivery.liveLanes, lanes, Delivery.liveLanes]
      rw [woken, absorbed, same, idle, live, List.length_cons]
      simp only [Bool.false_eq_true, false_and, if_false]
      omega

/-- Every turn makes the turns ahead fewer. -/
theorem toil_turn (steady : fanout.Steady) (turn : Turns.turn? fanout = some next) :
    toil next.agenda.ready next.delivery < toil fanout.agenda.ready fanout.delivery := by
  cases ready : fanout.agenda.ready with
  | nil =>
      rw [Turns.turn_of_idle (show (Turns.agenda fanout).ready = [] from ready)] at turn
      rw [show (Turns.clock fanout).isBehind = false from steady.current] at turn
      cases turn
  | cons task later =>
      rw [Turns.turn_of_ready (show (Turns.agenda fanout).ready = _ from ready)] at turn
      cases turn
      let dequeued : Fanout := { fanout with agenda := { fanout.agenda with ready := later } }
      obtain ⟨agenda, delivery, -⟩ := resume_parts task dequeued
      show toil (dequeued.resume task).agenda.ready (dequeued.resume task).delivery < _
      rw [agenda, delivery]
      cases task with
      | lane index => exact toil_resumeLane index steady.apart steady.absorbed
      | courier =>
          exact toil_resumeCourier steady.apart steady.absorbed (ready ▸ steady.distinct)

theorem rests_of_toil (turns : Nat) (steady : fanout.Steady)
    (enough : toil fanout.agenda.ready fanout.delivery ≤ turns) :
    Turns.turn? (Turns.run turns fanout) = none := by
  induction turns generalizing fanout with
  | zero =>
      cases turn : Turns.turn? fanout with
      | none => exact turn
      | some next =>
          have fewer := toil_turn steady turn
          omega
  | succ turns inductionHypothesis =>
      cases turn : Turns.turn? fanout with
      | none => rwa [Turns.run_of_rest turn]
      | some next =>
          have fewer := toil_turn steady turn
          rw [Turns.run_of_turn turn]
          exact inductionHypothesis (steady_keeps.turn? steady turn) (by omega)

/-- Whatever is in the queues, every task comes to wait in the turns that are allowed for. -/
theorem settles (steady : fanout.Steady) : Turns.Settles fanout := by
  refine rests_of_toil _ steady ?_
  have live : fanout.delivery.liveLanes ≤ fanout.delivery.lanes.length := List.countP_le_length
  have allowed : 8 * (fanout.delivery.lanes.length + 1) * 1 ≤ fanout.delivery.allowance 0 :=
    Nat.mul_le_mul_left _ (by omega)
  show toil _ _ ≤ fanout.agenda.ready.length + fanout.delivery.allowance 0
  unfold toil
  split <;> omega

end Fanout

end BoundedScene
