import BoundedScene.Agenda
import BoundedScene.Event.Listing
import BoundedScene.Subscriber.Delivery

/-!
Contract: a delivery run on its own, with the hands that feed and watch it.

Owns:
- `Fanout`, a delivery with its run queue and a receiver of its reports;
- what the owner of a delivery can do with it;
- the report of each step.

The owner gives the delivery away once, either to be shut down or to forward
its feed until told to end.

Does not own: the rules of delivery.
-/

namespace BoundedScene

/-- The task that the delivery was given to. -/
inductive Errand where
  /-- Close the queues and wait for the workers. -/
  | shutdown
  /-- Forward the feed until told to end, then shut down. -/
  | forward
deriving DecidableEq, Repr

def Errand.label : Errand → String
  | .shutdown => "shutdown"
  | .forward => "forwarded"

/-- A delivery with its run queue.

- `reader`: the position of the receiver of reports;
- `errand`: what the delivery was given away for;
- `completed`: the millisecond in which the errand was done. -/
structure Fanout where
  agenda : Agenda DeliveryTask := {}
  delivery : Delivery
  reader : Receiver := ⟨0⟩
  errand : Option Errand := none
  completed : Option Nat := none

namespace Fanout

/-- A fan-out to subscribers, if its buses and queues can have the capacities
asked for.  With `sameBus` the reports go to the feed itself. -/
def create? (profiles : List Profile) (reportCapacity feedCapacity : Nat) (sameBus : Bool) :
    Option Fanout :=
  if profiles.all fun profile => decide (profile.capacity ≤ Profile.largestCapacity) then do
    let reports ← Bus.create? reportCapacity
    let feed ← if sameBus then some reports else Bus.create? feedCapacity
    let delivery : Delivery :=
      { feed
        reports := if sameBus then none else some reports
        lanes := profiles.map fun profile => { profile } }
    some { agenda := { ready := delivery.workerTasks }, delivery }
  else none

/-- Put the tasks that the delivery woke on the agenda. -/
def absorb (fanout : Fanout) : Fanout :=
  { fanout with
    agenda := fanout.agenda.wakeAll fanout.delivery.woken
    delivery := { fanout.delivery with woken := [] } }

/-- Change the delivery. -/
def update (fanout : Fanout) (change : Delivery → Delivery) : Fanout :=
  ({ fanout with delivery := change fanout.delivery }).absorb

/-- Note the moment in which the errand is done. -/
def noteCompletion (fanout : Fanout) : Fanout :=
  if fanout.completed.isNone && fanout.delivery.courier == .finished then
    { fanout with completed := some fanout.agenda.clock.millisecond }
  else fanout

def resume (task : DeliveryTask) (fanout : Fanout) : Fanout :=
  (fanout.update (Delivery.resume task)).noteCompletion

instance : Turns Fanout DeliveryTask where
  agenda := Fanout.agenda
  withAgenda fanout agenda := { fanout with agenda }
  resume := resume
  alarms _ := []
  allowance fanout := fanout.agenda.ready.length + fanout.delivery.allowance 0

/-- What the owner can do. -/
inductive Step where
  /-- Emit an event a number of times. -/
  | emit (event : Event) (times : Nat)
  /-- Publish an event on the feed a number of times. -/
  | publish (event : Event) (times : Nat)
  | isEmpty
  /-- Allow a gated subscriber to take in more events. -/
  | release (subscriber count : Nat)
  | settle
  /-- Give the delivery away. -/
  | give (errand : Errand)
  /-- Tell the forwarding to end. -/
  | tellEnd
  /-- Drop the sender of the feed. -/
  | dropFeed
  /-- Destroy every task. -/
  | dropTasks
deriving DecidableEq, Repr

/-- The delivery is still with its owner. -/
def isOwned (fanout : Fanout) : Bool :=
  fanout.delivery.courier == .resting

def giveAway (fanout : Fanout) (errand : Errand) : Fanout :=
  let courier := match errand with
    | .shutdown => Courier.closing
    | .forward => Courier.forwarding
  ({ fanout with errand := some errand }).update fun delivery =>
    ({ delivery with courier }).wake .courier

def perform (fanout : Fanout) : Step → Fanout
  | .emit event times =>
      if fanout.isOwned then
        fanout.update fun delivery => (List.replicate times event).foldl Delivery.emit delivery
      else fanout
  | .publish event times =>
      if fanout.delivery.feedAbandoned then fanout
      else
        fanout.update fun delivery => (List.replicate times event).foldl Delivery.publish delivery
  | .isEmpty => fanout
  | .release subscriber count => fanout.update fun delivery => delivery.permit subscriber count
  | .settle => Turns.settle fanout
  | .give errand => if fanout.isOwned then fanout.giveAway errand else fanout
  | .tellEnd => fanout.update Delivery.tellEnd
  | .dropFeed => fanout.update Delivery.abandonFeed
  | .dropTasks =>
      { fanout with
        agenda := { fanout.agenda with ready := [] }
        delivery := fanout.delivery.lose }

/-- Whether no sender of the report bus is left. -/
def reportsClosed (fanout : Fanout) : Bool :=
  fanout.delivery.isReleased
    && (fanout.delivery.reports.isSome || fanout.delivery.feedAbandoned)

/-- What a step brought about.

- `done`: the errand that was completed, with its millisecond;
- `reports`: what the receiver of reports obtained;
- `seen`: for each subscriber, the events it handled;
- `isEmpty`: whether there is no subscriber, if the step asked. -/
structure Report where
  done : Option (Errand × Nat)
  reports : List Receipt
  seen : List (List Receipt)
  isEmpty : Option Bool

/-- For each subscriber, the events it handled since an earlier moment. -/
def seenSince (earlier fanout : Fanout) : List (List Receipt) :=
  (fanout.delivery.lanes.zip earlier.delivery.lanes).map fun (lane, earlierLane) =>
    Event.listing (lane.handled.drop earlierLane.handled.length)

/-- Perform a step, read the reports, and say what came about. -/
def step (fanout : Fanout) (step : Step) : Report × Fanout :=
  let next := fanout.perform step
  let (reports, reader) := next.delivery.reportBus.drain next.reportsClosed next.reader
  let done := if fanout.completed.isNone then
      next.completed.bind fun millisecond => next.errand.map fun errand => (errand, millisecond)
    else none
  ({ done
     reports := Receipt.listing reports
     seen := seenSince fanout next
     isEmpty := if step = .isEmpty then some next.delivery.lanes.isEmpty else none },
    { next with reader })

/-- Perform steps in order and report on each. -/
def stepAll : Fanout → List Step → List Report × Fanout
  | fanout, [] => ([], fanout)
  | fanout, first :: later =>
      let (report, fanout) := fanout.step first
      let rest := stepAll fanout later
      (report :: rest.1, rest.2)

end Fanout

end BoundedScene
