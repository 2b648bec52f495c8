import BoundedScene.Subscriber.Profile

/-!
Contract: the queue and the worker of one subscriber.

Owns:
- `Lane`, the events waiting, in hand, handled and dropped for one subscriber;
- the offer of an event, which never waits;
- the turn of the worker.

Every event offered to a lane is dropped, waiting, in hand or handled, and those
not dropped keep their order.

Does not own: when the worker gets its turn, and where its panics are reported.
-/

namespace BoundedScene

/-- Why a lane refused an event. -/
inductive Refusal where
  /-- The queue has no free slot. -/
  | full
  /-- Nobody takes from the queue any more. -/
  | closed
deriving DecidableEq, Repr

def Refusal.label : Refusal → String
  | .full => "full"
  | .closed => "closed"

/-- State of the task that hands the events to the subscriber. -/
inductive Worker where
  | live
  /-- The queue was closed and everything in it handled. -/
  | finished
  /-- The task was destroyed. -/
  | lost
deriving DecidableEq, Repr

/-- One subscriber with its queue and its worker.

- `queue`: events waiting, oldest first; at most `profile.slots` of them;
- `inHand`: the event at which the worker waits for a permit;
- `handled`: events taken in by the subscriber, oldest first;
- `dropped`: how many events the subscriber missed;
- `permits`: how many events a gated subscriber may still take in;
- `closed`: nothing more will be put into the queue. -/
structure Lane where
  profile : Profile
  queue : List Event := []
  inHand : Option Event := none
  handled : List Event := []
  dropped : Nat := 0
  permits : Nat := 0
  closed : Bool := false
  worker : Worker := .live
deriving DecidableEq, Repr

namespace Lane

/-- The number of dropped events stops here. -/
def largestDropped : Nat := Nat.pow 2 64 - 1

def isLive (lane : Lane) : Bool :=
  lane.worker == .live

/-- The worker waits for its queue rather than for a permit. -/
def isIdle (lane : Lane) : Bool :=
  lane.isLive && lane.inHand.isNone

/-- The worker waits for a permit. -/
def isAtGate (lane : Lane) : Bool :=
  lane.isLive && lane.inHand.isSome

/-- Count events that the subscriber missed. -/
def miss (lane : Lane) (count : Nat) : Lane :=
  { lane with dropped := min (lane.dropped + count) largestDropped }

/-- Put an event into the queue, or drop it and say why. -/
def offer (lane : Lane) (event : Event) : Option Refusal × Lane :=
  if !lane.isLive then (some .closed, lane.miss 1)
  else if lane.queue.length < lane.profile.slots then
    (none, { lane with queue := lane.queue ++ [event] })
  else (some .full, lane.miss 1)

/-- The report of a panic at an event, if the subscriber panics there. -/
def panicReport? (lane : Lane) (event : Event) : Option Event :=
  if event.kind ∈ lane.profile.panicOn then
    some (Event.panicked lane.profile.name lane.profile.payload.describe)
  else none

/-- The events that the worker has yet to hand over, oldest first. -/
def pending (lane : Lane) : List Event :=
  lane.inHand.toList ++ lane.queue

/-- How many events the worker can hand over in one turn. -/
def reach (lane : Lane) : Nat :=
  if lane.profile.gated then min lane.permits lane.pending.length else lane.pending.length

/-- The turn of the worker: hand over events while permits last, then wait with
the next one in hand, or wait for the queue, or finish if it is closed.  Also
gives the reports of the panics, in order. -/
def work (lane : Lane) : Lane × List Event :=
  if !lane.isLive then (lane, [])
  else
    let taken := lane.pending.take lane.reach
    let left := lane.pending.drop lane.reach
    ({ lane with
        handled := lane.handled ++ taken
        permits := if lane.profile.gated then lane.permits - lane.reach else lane.permits
        inHand := left.head?
        queue := left.tail
        worker := if left.isEmpty && lane.closed then .finished else .live },
      taken.filterMap lane.panicReport?)

/-- Allow a gated subscriber to take in more events. -/
def permit (lane : Lane) (count : Nat) : Lane :=
  if lane.profile.gated then { lane with permits := lane.permits + count } else lane

/-- Nothing more will be put into the queue. -/
def close (lane : Lane) : Lane :=
  { lane with closed := true }

/-- The worker's task is destroyed, and what it had not handled with it. -/
def lose (lane : Lane) : Lane :=
  if lane.isLive then { lane with worker := .lost, queue := [], inHand := none } else lane

end Lane

end BoundedScene
