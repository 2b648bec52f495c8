import BoundedScene.Event.Basic

/-!
Contract: the subscriber that keeps track of the props a scene holds.

Owns:
- `Tracker`, the set of held keys as events report it;
- `TrackerFamily`, the clones of one tracker, which share that set.

Does not own: the prop table that the events tell about.
-/

namespace BoundedScene

/-- The keys held so far, in ascending order and each of them once. -/
structure Tracker where
  keys : List String := []
deriving DecidableEq, Repr

namespace Tracker

def name : String := "PropTracker"

def queueCapacity : Nat := 1024

/-- Put a key in its place, unless it is there. -/
def insertKey (key : String) : List String → List String
  | [] => [key]
  | first :: rest =>
      if key < first then key :: first :: rest
      else if key = first then first :: rest
      else first :: insertKey key rest

/-- Take in one event: a stored prop is held, a disposed prop or one whose
cleanup failed is not, and the end of the scene leaves nothing. -/
def observe (tracker : Tracker) (event : Event) : Tracker :=
  match event.kind, event.key with
  | .propStored, some key => ⟨insertKey key tracker.keys⟩
  | .propDisposed, some key => ⟨tracker.keys.filter (· != key)⟩
  | .cleanupFailed, some key => ⟨tracker.keys.filter (· != key)⟩
  | .sceneEnded, _ => ⟨[]⟩
  | _, _ => tracker

def observeAll (tracker : Tracker) (events : List Event) : Tracker :=
  events.foldl observe tracker

/-- The held keys, sorted. -/
def snapshot (tracker : Tracker) : List String :=
  tracker.keys

end Tracker

/-- Clones of one tracker, known by the order of their creation. -/
structure TrackerFamily where
  shared : Tracker := {}
  members : Nat := 1
deriving DecidableEq, Repr

namespace TrackerFamily

inductive Request where
  /-- Hand an event to a member. -/
  | observe (member : Nat) (event : Event)
  /-- Clone a member; the clone is the newest member. -/
  | clone (member : Nat)
deriving DecidableEq, Repr

/-- The member a request is addressed to. -/
def Request.member : Request → Nat
  | .observe member _ => member
  | .clone member => member

def serve (family : TrackerFamily) : Request → TrackerFamily
  | .observe _ event => { family with shared := family.shared.observe event }
  | .clone _ => { family with members := family.members + 1 }

/-- What a member shows. -/
def snapshot (family : TrackerFamily) (_member : Nat) : List String :=
  family.shared.snapshot

/-- Serve requests in order; after each, what the member addressed shows. -/
def serveAll : TrackerFamily → List Request → List (List String) × TrackerFamily
  | family, [] => ([], family)
  | family, request :: later =>
      let family := family.serve request
      let rest := serveAll family later
      (family.snapshot request.member :: rest.1, rest.2)

/-- What every member shows. -/
def snapshots (family : TrackerFamily) : List (List String) :=
  (List.range family.members).map family.snapshot

end TrackerFamily

end BoundedScene
