import BoundedScene.Time.Span

/-!
Contract: the settings a scene is started with.

Owns:
- the four settings and their defaults;
- the readings under which zero disables a deadline and stands for one slot.

Does not own: the largest capacities that a mailbox or a bus can have.
-/

namespace BoundedScene

/-- Settings of one scene.

- `inactivity`: longest idle time between two processed commands, zero for none;
- `absolute`: longest lifetime from the start of the scene, zero for none;
- `commandCapacity`: slots of the mailbox between callers and the backend;
- `busCapacity`: events that the bus keeps for slow receivers. -/
structure Settings where
  inactivity : Span := Span.zero
  absolute : Span := Span.zero
  commandCapacity : Nat := 1
  busCapacity : Nat := 1024
deriving DecidableEq, Repr

namespace Settings

/-- The default capacities under both deadlines. -/
def limited (inactivity absolute : Span) : Settings :=
  { inactivity, absolute }

/-- A span of zero disables the deadline. -/
def enabled (span : Span) : Option Span :=
  if span.isZero then none else some span

def inactivityTimeout (settings : Settings) : Option Span :=
  enabled settings.inactivity

def absoluteTimeout (settings : Settings) : Option Span :=
  enabled settings.absolute

/-- Slots of the mailbox, at least one. -/
def commandSlots (settings : Settings) : Nat :=
  max settings.commandCapacity 1

/-- Events kept by the bus, at least one. -/
def busSlots (settings : Settings) : Nat :=
  max settings.busCapacity 1

end Settings

end BoundedScene
