/-!
Contract: the lifecycle phases of a scene and their order.

Owns:
- `Phase`, its stable labels and its order;
- the forward move between phases.

Does not own: what makes a scene move on.
-/

namespace BoundedScene

/-- Lifecycle phase of a scene. -/
inductive Phase where
  /-- Commands are accepted and processed. -/
  | active
  /-- Commands are no longer accepted; props are being cleaned up. -/
  | ending
  /-- Every prop is gone and the terminal result is fixed. -/
  | ended
deriving DecidableEq, Repr

namespace Phase

def label : Phase → String
  | .active => "active"
  | .ending => "ending"
  | .ended => "ended"

/-- How far along a phase is. -/
def rank : Phase → Nat
  | .active => 0
  | .ending => 1
  | .ended => 2

instance : Ord Phase where
  compare left right := compare left.rank right.rank

/-- The later of two phases.  A scene that moves to the later of its own phase
and another one never goes back. -/
def later (left right : Phase) : Phase :=
  if left.rank ≤ right.rank then right else left

end Phase

end BoundedScene
