import BoundedScene.Event.Bus

/-!
Contract: the canonical listing of received events.

A teardown visits the props in no particular order, so the failures it reports
come in no particular order either.  A listing puts every run of consecutive
cleanup failures into the order of their keys.

Owns:
- the sorting of runs of equal nature inside a list;
- the listing of receipts and of log lines.

Does not own: how a listing is written down.
-/

namespace BoundedScene

/-- Sort every longest run of items that satisfy `movable`, and leave every
other item in its place.  `held` is the run being collected. -/
def sortRunsFrom {α : Type} (movable : α → Bool) (le : α → α → Bool) : List α → List α → List α
  | held, [] => held.mergeSort le
  | held, item :: rest =>
      if movable item then sortRunsFrom movable le (held ++ [item]) rest
      else held.mergeSort le ++ item :: sortRunsFrom movable le [] rest

/-- Sort every longest run of items that satisfy `movable`. -/
def sortRuns {α : Type} (movable : α → Bool) (le : α → α → Bool) (items : List α) : List α :=
  sortRunsFrom movable le [] items

/-- Text order by code point. -/
def textLe (left right : String) : Bool :=
  !decide (right < left)

/-- Order of optional texts: the absent one comes first. -/
def optionalTextLe : Option String → Option String → Bool
  | none, _ => true
  | some _, none => false
  | some left, some right => textLe left right

namespace Receipt

def isCleanupFailure : Receipt → Bool
  | .event received => received.kind == .cleanupFailed
  | _ => false

def key? : Receipt → Option String
  | .event received => received.key
  | _ => none

/-- Receipts with every run of cleanup failures in the order of their keys. -/
def listing (receipts : List Receipt) : List Receipt :=
  sortRuns isCleanupFailure (fun left right => optionalTextLe left.key? right.key?) receipts

end Receipt

/-- The listing of events that were received without a gap. -/
def Event.listing (events : List Event) : List Receipt :=
  Receipt.listing (events.map Receipt.event)

end BoundedScene
