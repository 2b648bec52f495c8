import BoundedScene.Time.Span

/-!
Contract: the clock of one run and the deadlines set on it.

Owns:
- `Clock`, the present instant together with the last millisecond whose alarms
  have been noticed;
- the millisecond at which a deadline is due.

An instant is counted in nanoseconds from the start of the run.  Alarms are
noticed once per millisecond, so a deadline inside a millisecond is due at the
end of it.

Does not own: who waits for which deadline, and when time is allowed to pass.
-/

namespace BoundedScene

/-- The present instant and the last millisecond whose alarms were noticed.

The two drift apart only while one task lets time pass in the middle of its own
turn; `noticed` catches up when every task waits. -/
structure Clock where
  now : Nat := 0
  noticed : Nat := 0
deriving DecidableEq, Repr

namespace Clock

/-- Instants stay below this bound, in nanoseconds.

It stands for the range of a platform's instants, whose whole seconds are a signed 64-bit
number.  Here they are counted from the start of the run, on a platform from an origin of its
own, the last boot for instance, which is not known to a scene.  The two bounds differ by the
age of that origin, so only a deadline that lies within this age of the bound can be set by
one and be put off to the far future by the other. -/
def horizon : Nat := (Nat.pow 2 63 - 1) * Span.nanosecondsPerSecond

/-- Stands in for a deadline beyond the horizon: thirty years from now. -/
def farFuture : Span := Span.ofParts (86400 * 365 * 30) 0

/-- The present instant in whole milliseconds. -/
def millisecond (clock : Clock) : Nat :=
  clock.now / Span.nanosecondsPerMillisecond

/-- The instant `after` from now, or the far future when there is no such
instant below the horizon. -/
def instantAfter (clock : Clock) (after : Span) : Nat :=
  if clock.now + after.nanoseconds < horizon then clock.now + after.nanoseconds
  else clock.now + farFuture.nanoseconds

/-- The first whole millisecond that is not before an instant. -/
def roundUp (instant : Nat) : Nat :=
  (instant + (Span.nanosecondsPerMillisecond - 1)) / Span.nanosecondsPerMillisecond

/-- The millisecond at which a deadline `after` from now is due. -/
def deadline (clock : Clock) (after : Span) : Nat :=
  roundUp (clock.instantAfter after)

/-- A deadline is seen as due once its millisecond has been noticed. -/
def isDue (clock : Clock) (deadline : Nat) : Bool :=
  decide (deadline ≤ clock.noticed)

/-- Time passes while a task holds its turn: nothing is noticed yet. -/
def pass (clock : Clock) (length : Span) : Clock :=
  { clock with now := clock.now + length.nanoseconds }

/-- The clock at `instant`, or where it is when that lies in the past, with
every alarm up to there noticed. -/
def reach (clock : Clock) (instant : Nat) : Clock :=
  let now := max clock.now instant
  { now, noticed := max clock.noticed (now / Span.nanosecondsPerMillisecond) }

/-- Whether a whole millisecond has passed that nobody noticed. -/
def isBehind (clock : Clock) : Bool :=
  decide (clock.noticed < clock.millisecond)

end Clock

end BoundedScene
