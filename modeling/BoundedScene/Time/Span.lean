/-!
Contract: lengths of time and the text that messages show for them.

Owns:
- `Span`, a length of time counted in nanoseconds;
- the longest span that a caller can name;
- the exact decimal text of a span.

Does not own: points in time, deadlines, and the clock.
-/

namespace BoundedScene

/-- A length of time. -/
structure Span where
  nanoseconds : Nat
deriving DecidableEq, Repr

namespace Span

def nanosecondsPerMillisecond : Nat := 1000000

def nanosecondsPerSecond : Nat := 1000000000

def zero : Span := ⟨0⟩

def ofMilliseconds (milliseconds : Nat) : Span :=
  ⟨milliseconds * nanosecondsPerMillisecond⟩

def ofParts (seconds nanoseconds : Nat) : Span :=
  ⟨seconds * nanosecondsPerSecond + nanoseconds⟩

/-- The longest span that can be named: seconds fill 64 bits and the rest is
just under one more second. -/
def longest : Span :=
  ofParts (Nat.pow 2 64 - 1) 999999999

def isZero (span : Span) : Bool :=
  span.nanoseconds == 0

/-- Whole seconds. -/
def seconds (span : Span) : Nat :=
  span.nanoseconds / nanosecondsPerSecond

/-- Nanoseconds beyond the last whole second. -/
def subsecond (span : Span) : Nat :=
  span.nanoseconds % nanosecondsPerSecond

/-- Whole milliseconds; what is left of the last one is cut off. -/
def milliseconds (span : Span) : Nat :=
  span.nanoseconds / nanosecondsPerMillisecond

/-- The decimal places of a fraction of `10 ^ width` parts, with the zeros at
the end left out. -/
def fractionDigits (width parts : Nat) : List Char :=
  let digits := Nat.toDigits 10 parts
  let places := List.replicate (width - digits.length) '0' ++ digits
  (places.reverse.dropWhile (· == '0')).reverse

/-- An amount of `value / 10 ^ width` units, written exactly. -/
def decimal (width value : Nat) : String :=
  let whole := Nat.repr (value / Nat.pow 10 width)
  match fractionDigits width (value % Nat.pow 10 width) with
  | [] => whole
  | places => whole ++ "." ++ String.ofList places

/-- The exact text of a span in the largest of four units that leaves a whole
part: seconds, milliseconds, microseconds, or else nanoseconds. -/
def text (span : Span) : String :=
  if nanosecondsPerSecond ≤ span.nanoseconds then decimal 9 span.nanoseconds ++ "s"
  else if nanosecondsPerMillisecond ≤ span.nanoseconds then decimal 6 span.nanoseconds ++ "ms"
  else if 1000 ≤ span.nanoseconds then decimal 3 span.nanoseconds ++ "µs"
  else Nat.repr span.nanoseconds ++ "ns"

end Span

end BoundedScene
