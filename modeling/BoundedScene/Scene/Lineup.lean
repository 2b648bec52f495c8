import BoundedScene.Event.Listing
import BoundedScene.Event.LogLine
import BoundedScene.Subscriber.Lane
import BoundedScene.Subscriber.Tracker

/-!
Contract: the subscribers that a scene is built with, and what each of them
shows of the events it handled.

Owns:
- `Lineup`, every subscriber that was named, known by order of appearance;
- the choice of those that take part;
- the view of each subscriber.

Does not own: the delivery of events.
-/

namespace BoundedScene

/-- A subscriber by what it makes of events. -/
inductive Subscriber where
  /-- Keeps track of the held props. -/
  | tracker
  /-- Writes log lines. -/
  | log
  /-- Keeps the events themselves. -/
  | recorder (profile : Profile)
deriving DecidableEq, Repr

def Subscriber.profile : Subscriber → Profile
  | .tracker => Profile.tracker
  | .log => Profile.logWriter
  | .recorder profile => profile

/-- A call that names subscribers while a scene is built. -/
inductive LineupCall where
  | add (subscriber : Subscriber)
  /-- Name a whole new set in place of what was named before. -/
  | replace (subscribers : List Subscriber)
deriving DecidableEq, Repr

/-- A named subscriber and whether it takes part. -/
structure LineupEntry where
  subscriber : Subscriber
  takesPart : Bool := true
deriving DecidableEq, Repr

/-- Every subscriber named, in order of appearance. -/
structure Lineup where
  entries : List LineupEntry := []
deriving DecidableEq, Repr

namespace Lineup

def apply (lineup : Lineup) : LineupCall → Lineup
  | .add subscriber => ⟨lineup.entries ++ [{ subscriber }]⟩
  | .replace subscribers =>
      ⟨(lineup.entries.map fun entry => { entry with takesPart := false })
        ++ subscribers.map fun subscriber => { subscriber }⟩

def ofCalls (calls : List LineupCall) : Lineup :=
  calls.foldl apply {}

/-- The profiles of the subscribers that take part, in order. -/
def profiles (lineup : Lineup) : List Profile :=
  (lineup.entries.filter LineupEntry.takesPart).map fun entry => entry.subscriber.profile

/-- The number of a subscriber among those that take part. -/
def lane? (lineup : Lineup) (number : Nat) : Option Nat :=
  match lineup.entries[number]? with
  | none => none
  | some entry =>
      if entry.takesPart then
        some ((lineup.entries.take number).filter LineupEntry.takesPart).length
      else none

end Lineup

/-- What a subscriber shows. -/
inductive SubscriberView where
  /-- The keys it holds. -/
  | keys (keys : List String)
  /-- Log lines. -/
  | lines (lines : List String)
  /-- Events. -/
  | events (receipts : List Receipt)
deriving DecidableEq, Repr

/-- The lines of events, with every run of cleanup failures in text order. -/
def Event.lines (events : List Event) : List String :=
  (sortRuns (fun line : Bool × String => line.1) (fun left right => textLe left.2 right.2)
    (events.map fun event => (event.kind == .cleanupFailed, event.logLine))).map Prod.snd

/-- What a subscriber shows that had handled `earlier` and handled `recent` since:
a tracker what it holds now, the others what is new. -/
def Subscriber.view (subscriber : Subscriber) (earlier recent : List Event) : SubscriberView :=
  match subscriber with
  | .tracker => .keys (({} : Tracker).observeAll (earlier ++ recent)).snapshot
  | .log => .lines (Event.lines recent)
  | .recorder _ => .events (Event.listing recent)

end BoundedScene
