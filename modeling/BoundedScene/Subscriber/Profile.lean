import BoundedScene.Event.Basic
import BoundedScene.Panic
import BoundedScene.Subscriber.Tracker

/-!
Contract: what a delivery has to know about a subscriber.

Owns:
- `Profile`, the name, the queue capacity and the behaviour of a subscriber;
- the profiles of the built-in subscribers and of recorders.

Does not own: what a subscriber makes of the events it handles.
-/

namespace BoundedScene

/-- The behaviour of a subscriber as seen from outside.

- `capacity`: events that may wait for it, zero counting as one;
- `gated`: it needs one permit for each event;
- `panicOn`: the kinds of events at which it panics, after it took them in;
- `payload`: what such a panic carries. -/
structure Profile where
  name : String
  capacity : Nat := 64
  gated : Bool := false
  panicOn : List EventKind := []
  payload : PanicPayload := .other
deriving DecidableEq, Repr

namespace Profile

/-- No queue has more slots asked for than this. -/
def largestCapacity : Nat := Nat.pow 2 61 - 1

/-- Slots of the subscriber's queue. -/
def slots (profile : Profile) : Nat :=
  max profile.capacity 1

/-- The panic of a recorder, in words. -/
def explosion (name : String) : PanicPayload :=
  .composed (name ++ " exploded")

/-- The subscriber that keeps track of props. -/
def tracker : Profile :=
  { name := Tracker.name, capacity := Tracker.queueCapacity }

/-- The subscriber that writes log lines. -/
def logWriter : Profile :=
  { name := "LogWriter", capacity := 1024 }

end Profile

end BoundedScene
