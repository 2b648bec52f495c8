import BoundedScene.Scene.Lineup
import BoundedScene.Scene.Run

/-!
Contract: what the users of a scene observe, step by step.

Owns:
- `Observation`, a scene with its event receivers and its subscribers;
- the steps of the users, among them taking and reading a receiver;
- the report of each step.

Which of several failing cleanups a teardown visits first is open.  Wherever a
report depends on it, the report names all candidates instead.

Does not own: the run of the scene.
-/

namespace BoundedScene

/-- A scene with its observers.

- `first`: the receiver taken when the scene was built, and whether it has seen
  the end of the events;
- `watchers`: the receivers taken since;
- `readings`: what was read during the present step, if a receiver was read;
- `failing`: the keys of the cleanups that failed in the latest step in which
  any did, sorted. -/
structure Observation (V : Type) where
  session : Session V
  lineup : Lineup
  first : Receiver
  firstClosed : Bool := false
  watchers : List Receiver := []
  readings : Option (List Receipt) := none
  failing : List String := []

namespace Observation

variable {V : Type}

/-- What the users do. -/
inductive Deed (V : Type) where
  | act (deed : Session.Deed V)
  /-- Allow a subscriber, by order of appearance, to take in more events. -/
  | release (subscriber count : Nat)
  /-- Take a receiver; it gets the next number. -/
  | watch
  /-- Read all that a receiver obtains. -/
  | read (watcher : Nat)

/-- A step of the users; each ends with a settled scene. -/
inductive Step (V : Type) where
  | deeds (deeds : List (Deed V))
  | elapse (length : Span)

/-- Build a scene and take a receiver of its events before anything runs. -/
def create? (settings : Settings) (calls : List LineupCall) : Option (Observation V) :=
  let lineup := Lineup.ofCalls calls
  (Session.create? settings lineup.profiles).map fun session =>
    { session, lineup, first := session.delivery.feed.subscribe }

def act (observation : Observation V) : Deed V → Observation V
  | .act deed => { observation with session := observation.session.act deed }
  | .release subscriber count =>
      match observation.lineup.lane? subscriber with
      | none => observation
      | some lane =>
          { observation with session := observation.session.act (.release lane count) }
  | .watch =>
      { observation with
        watchers := observation.watchers ++ [observation.session.delivery.feed.subscribe] }
  | .read number =>
      match observation.watchers[number]? with
      | none => observation
      | some watcher =>
          let (receipts, watcher) :=
            observation.session.delivery.feed.drain observation.session.busClosed watcher
          { observation with
            watchers := observation.watchers.set number watcher
            readings := some (observation.readings.getD [] ++ receipts) }

def perform (observation : Observation V) : Step V → Observation V
  | .deeds deeds =>
      let observation := deeds.foldl act { observation with readings := none }
      { observation with session := Turns.settle observation.session }
  | .elapse length =>
      { observation with
        session := observation.session.perform (.elapse length)
        readings := none }

/-! ## Reports -/

/-- A receipt, with the keys that its reason could name if that is open. -/
structure Shown where
  receipt : Receipt
  candidates : List String := []
deriving DecidableEq, Repr

/-- An answered call, with the keys that its error could name if that is open. -/
structure Completion (V : Type) where
  id : Nat
  answer : Answer V
  millisecond : Nat
  candidates : List String := []

/-- What one subscriber shows; the events of a recorder are shown ones. -/
inductive ShownView where
  | keys (keys : List String)
  | lines (lines : List String)
  | events (events : List Shown)
deriving DecidableEq, Repr

/-- What a step brought about. -/
structure Report (V : Type) where
  done : List (Completion V)
  events : List Shown
  read : Option (List Shown)
  cleanups : List (CleanupRun V)
  subscribers : List ShownView
  phase : Option Phase

/-- The candidates for the failure that a teardown reports, if there are several. -/
def candidates (observation : Observation V) : List String :=
  if 2 ≤ observation.failing.length then observation.failing else []

/-- Whether a receipt is the end of a scene because of a failed cleanup. -/
def endsByCleanup : Receipt → Bool
  | .event event =>
      event.kind == .sceneEnded && event.reason.any fun reason =>
        "cleanup of prop ".toList.isPrefixOf reason.toList
  | _ => false

def showReceipt (observation : Observation V) (receipt : Receipt) : Shown :=
  if endsByCleanup receipt then { receipt, candidates := observation.candidates }
  else { receipt }

def showView (observation : Observation V) : SubscriberView → ShownView
  | .keys keys => .keys keys
  | .lines lines => .lines lines
  | .events receipts => .events (receipts.map observation.showReceipt)

/-- Whether an answer reports a failed cleanup. -/
def reportsCleanup : Answer V → Bool
  | .failed error => error.isCleanupFailed
  | _ => false

/-- The answered calls, oldest call first. -/
def completions (observation : Observation V) : List (Completion V) :=
  observation.session.calls.zipIdx.filterMap fun (call, id) =>
    match call.stage with
    | .finished answer millisecond =>
        let isOpen := reportsCleanup answer && !call.request.isDispose
        some ⟨id, answer, millisecond, if isOpen then observation.candidates else []⟩
    | _ => none

/-- The keys of failed cleanups, sorted. -/
def failingKeys (runs : List (CleanupRun V)) : List String :=
  ((runs.filter fun run => run.outcome.isFailure).map CleanupRun.key).mergeSort textLe

/-- The views of all subscribers, of those that do not take part an empty one. -/
def views (earlier observation : Observation V) : List SubscriberView :=
  observation.lineup.entries.zipIdx.map fun (entry, number) =>
    match observation.lineup.lane? number with
    | none => entry.subscriber.view [] []
    | some lane =>
        let before := (earlier.session.delivery.lanes[lane]?.map Lane.handled).getD []
        let after := (observation.session.delivery.lanes[lane]?.map Lane.handled).getD []
        entry.subscriber.view before (after.drop before.length)

/-- Read the first receiver, unless it has seen the end of the events. -/
def readFirst (observation : Observation V) : List Receipt × Observation V :=
  if observation.firstClosed then ([], observation)
  else
    let (receipts, first) :=
      observation.session.delivery.feed.drain observation.session.busClosed observation.first
    (receipts, { observation with first, firstClosed := decide (.closed ∈ receipts) })

/-- Perform a step and say what came about. -/
def step (earlier : Observation V) (step : Step V) : Report V × Observation V :=
  let next := earlier.perform step
  let runs := next.session.cleanups.drop earlier.session.cleanups.length
  let failing := failingKeys runs
  let next := if failing.isEmpty then next else { next with failing }
  let (events, next) := next.readFirst
  let answered := earlier.completions.map Completion.id
  ({ done := next.completions.filter fun completion => !answered.contains completion.id
     events := (Receipt.listing events).map next.showReceipt
     read := next.readings.map fun receipts => (Receipt.listing receipts).map next.showReceipt
     cleanups := runs.mergeSort fun left right => textLe left.key right.key
     subscribers := (views earlier next).map next.showView
     phase := if next.session.handles.any id then some next.session.phase else none },
    next)

/-- Perform steps in order and report on each. -/
def stepAll : Observation V → List (Step V) → List (Report V) × Observation V
  | observation, [] => ([], observation)
  | observation, first :: later =>
      let (report, observation) := observation.step first
      let rest := stepAll observation later
      (report :: rest.1, rest.2)

end Observation

end BoundedScene
