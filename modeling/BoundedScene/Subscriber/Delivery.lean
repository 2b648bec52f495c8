import BoundedScene.Event.Bus
import BoundedScene.Subscriber.Lane

/-!
Contract: the delivery of the events of a bus to a set of subscribers.

Owns:
- `Delivery`, the bus it feeds on, the lanes, and the courier between them;
- the fan-out of one event and the reports about missed events;
- the turns of the courier and of the workers.

The courier never waits for a subscriber: what a lane refuses is dropped for
that subscriber alone and reported.  An overflow report that is itself refused
is not reported again.

Reports go to a bus of their own or to the very bus that feeds the delivery.

Does not own: the run queue; a delivery only names the tasks it woke.
-/

namespace BoundedScene

/-- State of the task that carries events from the bus to the lanes. -/
inductive Courier where
  /-- No task yet: events are emitted by whoever owns the delivery. -/
  | resting
  /-- Waits at the feed for events or to be told to end. -/
  | forwarding
  /-- Holds its turn and carries events. -/
  | carrying
  /-- About to close the queues. -/
  | closing
  /-- Waits for the workers to finish. -/
  | joining
  | finished
  /-- The task was destroyed. -/
  | lost
deriving DecidableEq, Repr

/-- The tasks of a delivery. -/
inductive DeliveryTask where
  | lane (index : Nat)
  | courier
deriving DecidableEq, Repr

/-- A set of subscribers behind one bus.

- `feed`: the bus that the courier reads, at `position`;
- `reports`: the bus for reports, or none if they go to the feed;
- `ended`: the courier was told to end;
- `feedAbandoned`: the senders of the feed outside the delivery are gone;
- `woken`: tasks that can go on and have not been put on an agenda. -/
structure Delivery where
  feed : Bus
  reports : Option Bus := none
  position : Receiver := ⟨0⟩
  lanes : List Lane := []
  courier : Courier := .resting
  ended : Bool := false
  feedAbandoned : Bool := false
  woken : List DeliveryTask := []
deriving DecidableEq, Repr

namespace Delivery

def wake (delivery : Delivery) (task : DeliveryTask) : Delivery :=
  { delivery with woken := delivery.woken ++ [task] }

def wakeIf (delivery : Delivery) (condition : Bool) (task : DeliveryTask) : Delivery :=
  if condition then delivery.wake task else delivery

def setLane (delivery : Delivery) (index : Nat) (lane : Lane) : Delivery :=
  { delivery with lanes := delivery.lanes.set index lane }

/-- The courier waits at the feed. -/
def isForwarding (delivery : Delivery) : Bool :=
  delivery.courier == .forwarding

/-- The courier waits for the workers. -/
def isJoining (delivery : Delivery) : Bool :=
  delivery.courier == .joining

/-- The bus that reports go to. -/
def reportBus (delivery : Delivery) : Bus :=
  delivery.reports.getD delivery.feed

/-- Publish an event on the feed. -/
def publish (delivery : Delivery) (event : Event) : Delivery :=
  ({ delivery with feed := delivery.feed.publish event }).wakeIf delivery.isForwarding .courier

/-- Publish a report. -/
def report (delivery : Delivery) (event : Event) : Delivery :=
  match delivery.reports with
  | none => delivery.publish event
  | some bus => { delivery with reports := some (bus.publish event) }

/-- The report that a subscriber missed events, with their number so far. -/
def overflowReport (lane : Lane) (reason : String) : Event :=
  (Event.overflow lane.profile.name reason).withCount lane.dropped

/-- Offer an event to one lane and report a refusal. -/
def offer (event : Event) (delivery : Delivery) (index : Nat) : Delivery :=
  match delivery.lanes[index]? with
  | none => delivery
  | some lane =>
      match lane.offer event with
      | (none, lane) => (delivery.setLane index lane).wakeIf lane.isIdle (.lane index)
      | (some refusal, lane) =>
          let delivery := delivery.setLane index lane
          if event.isOverflow then delivery
          else delivery.report (overflowReport lane refusal.label)

/-- Queue an event for every subscriber without waiting. -/
def emit (delivery : Delivery) (event : Event) : Delivery :=
  (List.range delivery.lanes.length).foldl (offer event) delivery

/-- Count a gap for one lane and report it. -/
def missOne (missed : Nat) (delivery : Delivery) (index : Nat) : Delivery :=
  match delivery.lanes[index]? with
  | none => delivery
  | some lane =>
      let lane := lane.miss missed
      (delivery.setLane index lane).report (overflowReport lane "lagged")

/-- The courier was overtaken: every subscriber missed the events of the gap. -/
def miss (delivery : Delivery) (missed : Nat) : Delivery :=
  (List.range delivery.lanes.length).foldl (missOne missed) delivery

/-- Nothing will be published on the feed any more.  While the delivery reports
to its own feed it is a sender itself. -/
def feedClosed (delivery : Delivery) : Bool :=
  delivery.feedAbandoned && delivery.reports.isSome

/-- Carry events until the feed is read, in at most `reads` reads; a courier that
needs more goes on in a later turn. -/
def carry : Nat → Delivery → Bool × Delivery
  | 0, delivery => (false, delivery.wake .courier)
  | reads + 1, delivery =>
      match delivery.feed.receive delivery.feedClosed delivery.position with
      | (.event event, position) => carry reads ({ delivery with position }.emit event)
      | (.lagged missed, position) => carry reads ({ delivery with position }.miss missed)
      | _ => (true, delivery)

/-- Reads that suffice to empty the feed.  Each event read may add one report for
each lane to the feed, and such a report adds none. -/
def reads (delivery : Delivery) : Nat :=
  (delivery.feed.backlog delivery.position + 1) * (delivery.lanes.length + 1) + 1

/-- Whether no worker is left. -/
def workersGone (delivery : Delivery) : Bool :=
  delivery.lanes.all fun lane => !lane.isLive

/-- Wait for the workers to finish. -/
def join (delivery : Delivery) : Delivery :=
  { delivery with courier := if delivery.workersGone then .finished else .joining }

/-- Close every queue; an idle worker notices at once. -/
def closeQueues (delivery : Delivery) : Delivery :=
  let idle := delivery.lanes.zipIdx.filterMap fun (lane, index) =>
    if lane.isIdle then some (DeliveryTask.lane index) else none
  { delivery with lanes := delivery.lanes.map Lane.close, woken := delivery.woken ++ idle }

/-- The turn of the courier. -/
def resumeCourier (delivery : Delivery) : Delivery :=
  match delivery.courier with
  | .forwarding =>
      let (emptied, delivery) := { delivery with courier := .carrying }.carry delivery.reads
      let delivery := { delivery with courier := .forwarding }
      if emptied && (delivery.ended || delivery.feedClosed) then delivery.closeQueues.join
      else delivery
  | .closing => delivery.closeQueues.join
  | .joining => delivery.join
  | _ => delivery

/-- The turn of a worker. -/
def resumeLane (index : Nat) (delivery : Delivery) : Delivery :=
  match delivery.lanes[index]? with
  | none => delivery
  | some lane =>
      let (next, panics) := lane.work
      let delivery := panics.foldl report (delivery.setLane index next)
      delivery.wakeIf (lane.isLive && !next.isLive && delivery.isJoining) .courier

def resume : DeliveryTask → Delivery → Delivery
  | .lane index => resumeLane index
  | .courier => resumeCourier

/-- Allow a gated subscriber to take in more events. -/
def permit (delivery : Delivery) (index count : Nat) : Delivery :=
  match delivery.lanes[index]? with
  | none => delivery
  | some lane =>
      (delivery.setLane index (lane.permit count)).wakeIf
        (lane.isAtGate && lane.profile.gated && decide (0 < count)) (.lane index)

/-- Tell the courier to end once it has read the feed. -/
def tellEnd (delivery : Delivery) : Delivery :=
  ({ delivery with ended := true }).wakeIf delivery.isForwarding .courier

/-- The senders of the feed outside the delivery are gone. -/
def abandonFeed (delivery : Delivery) : Delivery :=
  ({ delivery with feedAbandoned := true }).wakeIf delivery.isForwarding .courier

/-- Whether the courier's task exists. -/
def courierRuns (delivery : Delivery) : Bool :=
  match delivery.courier with
  | .resting => false
  | .finished => false
  | .lost => false
  | _ => true

/-- Every task is destroyed. -/
def lose (delivery : Delivery) : Delivery :=
  { delivery with
    lanes := delivery.lanes.map Lane.lose
    courier := if delivery.courierRuns then .lost else delivery.courier
    woken := [] }

/-- Whether the delivery holds no sender of its report bus any more. -/
def isReleased (delivery : Delivery) : Bool :=
  (delivery.courier == .finished || delivery.courier == .lost) && delivery.workersGone

/-- The tasks of the workers, in order. -/
def workerTasks (delivery : Delivery) : List DeliveryTask :=
  (List.range delivery.lanes.length).map DeliveryTask.lane

/-- Turns that suffice for a delivery whose subscribers do not keep it busy with
their own panics, when up to `upcoming` more events are published. -/
def allowance (delivery : Delivery) (upcoming : Nat) : Nat :=
  let waiting := delivery.lanes.foldl
    (fun total lane => total + lane.permits + lane.pending.length) 0
  8 * (delivery.lanes.length + 1)
    * (upcoming + waiting + delivery.feed.backlog delivery.position + 8)

end Delivery

end BoundedScene
