import BoundedScene.Event.Basic

/-!
Contract: the broadcast of events to any number of receivers.

Owns:
- `Bus`, the events published so far and the number kept for slow receivers;
- `Receiver`, a reading position of its own;
- what a receiver obtains next: an event, a gap report, nothing yet, or the end.

A bus remembers every published event; a receiver may read only the last `slots`
of them.  What one receiver reads does not concern another.

Does not own: who may publish, and when the last sender is gone.
-/

namespace BoundedScene

/-- The events published so far, oldest first, of which the last `slots` can
still be read. -/
structure Bus where
  slots : Nat
  published : List Event := []
deriving DecidableEq, Repr

/-- How many of the published events a receiver has read or been told about. -/
structure Receiver where
  position : Nat
deriving DecidableEq, Repr

/-- What a receiver obtains. -/
inductive Receipt where
  | event (event : Event)
  /-- The receiver was overtaken and skips this many events. -/
  | lagged (missed : Nat)
  /-- Nothing is there yet. -/
  | empty
  /-- Nothing is there and nothing will come. -/
  | closed
deriving DecidableEq, Repr

namespace Bus

/-- No bus has more slots asked for than this. -/
def largestCapacity : Nat := Nat.pow 2 63 - 1

/-- The least power of two that is not below a number. -/
def roundUp (least : Nat) : Nat :=
  if least ≤ 1 then 1 else Nat.pow 2 ((least - 1).log2 + 1)

theorem le_roundUp (least : Nat) : least ≤ roundUp least := by
  unfold roundUp
  split
  · assumption
  · have below : least - 1 < Nat.pow 2 ((least - 1).log2 + 1) := Nat.lt_log2_self
    omega

theorem roundUp_le {least exponent : Nat} (enough : least ≤ Nat.pow 2 exponent) :
    roundUp least ≤ Nat.pow 2 exponent := by
  unfold roundUp
  split
  · exact Nat.one_le_two_pow
  · have below : least - 1 < Nat.pow 2 exponent := by omega
    have inside : (least - 1).log2 < exponent := (Nat.log2_lt (by omega)).mpr below
    exact Nat.pow_le_pow_right (by decide) inside

/-- A bus that keeps at least `capacity` events and at least one.  The number of
slots is a power of two. -/
def ofCapacity (capacity : Nat) : Bus :=
  { slots := roundUp (max capacity 1) }

/-- A bus of the capacity asked for, if there can be one. -/
def create? (capacity : Nat) : Option Bus :=
  if capacity ≤ largestCapacity then some (ofCapacity capacity) else none

def publish (bus : Bus) (event : Event) : Bus :=
  { bus with published := bus.published ++ [event] }

/-- A receiver of the events published from now on. -/
def subscribe (bus : Bus) : Receiver :=
  ⟨bus.published.length⟩

/-- How many events a receiver has not read or been told about. -/
def backlog (bus : Bus) (receiver : Receiver) : Nat :=
  bus.published.length - receiver.position

/-- What a receiver obtains next, and the receiver after it.

A receiver that is behind by more than `slots` events is told once how many it
missed and goes on at the oldest event that is kept. -/
def receive (bus : Bus) (closed : Bool) (receiver : Receiver) : Receipt × Receiver :=
  if bus.slots < bus.backlog receiver then
    (.lagged (bus.backlog receiver - bus.slots), ⟨bus.published.length - bus.slots⟩)
  else
    match bus.published[receiver.position]? with
    | some event => (.event event, ⟨receiver.position + 1⟩)
    | none => (if closed then .closed else .empty, receiver)

/-- Everything that a receiver obtains until it finds the bus empty or closed,
in at most `reads` reads. -/
def drainWithin (bus : Bus) (closed : Bool) : Nat → Receiver → List Receipt × Receiver
  | 0, receiver => ([], receiver)
  | reads + 1, receiver =>
      match bus.receive closed receiver with
      | (.empty, receiver) => ([], receiver)
      | (.closed, receiver) => ([.closed], receiver)
      | (receipt, receiver) =>
          let rest := bus.drainWithin closed reads receiver
          (receipt :: rest.1, rest.2)

/-- Everything that a receiver obtains until it finds the bus empty or closed.
A gap report, each event and the end take one read. -/
def drain (bus : Bus) (closed : Bool) (receiver : Receiver) : List Receipt × Receiver :=
  bus.drainWithin closed (bus.backlog receiver + 2) receiver

end Bus

end BoundedScene
