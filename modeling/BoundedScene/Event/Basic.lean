import BoundedScene.Time.Span

/-!
Contract: the events that a scene and its subscribers publish.

Owns:
- `EventKind` and `Event` with its optional details;
- the builders, which store durations and counts in compact form;
- the numbering of events in order of creation.

Does not own: when an event is published, and how it is delivered or shown.
-/

namespace BoundedScene

/-- Classification of events. -/
inductive EventKind where
  /-- A subscriber panicked while it handled an event. -/
  | subscriberPanicked
  /-- A subscriber missed one or more events. -/
  | subscriberOverflow
  /-- The backend started and armed its deadlines. -/
  | sceneStarted
  /-- A deadline was due; the scene is about to end. -/
  | timeoutHit
  /-- A caller aborted the scene. -/
  | abortRequested
  /-- The backend left the active phase and starts its teardown. -/
  | sceneEnding
  /-- The teardown is finished and the terminal result fixed. -/
  | sceneEnded
  | propStored
  | propFetched
  /-- A prop was disposed and its cleanup, if any, succeeded. -/
  | propDisposed
  /-- A cleanup failed, during a dispose or during the teardown. -/
  | cleanupFailed
  /-- A command was rejected. -/
  | commandRejected
  /-- A caller began to wait for a topic. -/
  | waiterRegistered
  /-- A signal reached the callers that waited for its topic. -/
  | signalDelivered
deriving DecidableEq, Repr

namespace EventKind

/-- Every kind, in order of declaration. -/
def all : List EventKind :=
  [.subscriberPanicked, .subscriberOverflow, .sceneStarted, .timeoutHit, .abortRequested,
   .sceneEnding, .sceneEnded, .propStored, .propFetched, .propDisposed, .cleanupFailed,
   .commandRejected, .waiterRegistered, .signalDelivered]

/-- The name of a kind. -/
def name : EventKind → String
  | .subscriberPanicked => "SubscriberPanicked"
  | .subscriberOverflow => "SubscriberOverflow"
  | .sceneStarted => "SceneStarted"
  | .timeoutHit => "TimeoutHit"
  | .abortRequested => "AbortRequested"
  | .sceneEnding => "SceneEnding"
  | .sceneEnded => "SceneEnded"
  | .propStored => "PropStored"
  | .propFetched => "PropFetched"
  | .propDisposed => "PropDisposed"
  | .cleanupFailed => "CleanupFailed"
  | .commandRejected => "CommandRejected"
  | .waiterRegistered => "WaiterRegistered"
  | .signalDelivered => "SignalDelivered"

def ofName? (name : String) : Option EventKind :=
  all.find? fun kind => kind.name == name

end EventKind

/-- An event with the details that its kind gives it. -/
structure Event where
  kind : EventKind
  /-- The prop concerned. -/
  key : Option String := none
  /-- The signal topic concerned. -/
  topic : Option String := none
  /-- The subscriber concerned. -/
  subscriber : Option String := none
  /-- Why it happened, in words. -/
  reason : Option String := none
  timeoutMilliseconds : Option Nat := none
  inactivityMilliseconds : Option Nat := none
  /-- How many items are concerned. -/
  count : Option Nat := none
deriving DecidableEq, Repr

namespace Event

/-- The largest number that an event can carry. -/
def largestDetail : Nat := Nat.pow 2 32 - 1

/-- A number as an event carries it. -/
def saturate (number : Nat) : Nat :=
  min number largestDetail

/-- An event without details. -/
def plain (kind : EventKind) : Event :=
  { kind }

def withKey (event : Event) (key : String) : Event :=
  { event with key := some key }

def withTopic (event : Event) (topic : String) : Event :=
  { event with topic := some topic }

def withReason (event : Event) (reason : String) : Event :=
  { event with reason := some reason }

/-- Attach a timeout in whole milliseconds. -/
def withTimeout (event : Event) (timeout : Span) : Event :=
  { event with timeoutMilliseconds := some (saturate timeout.milliseconds) }

/-- Attach an inactivity timeout in whole milliseconds. -/
def withInactivity (event : Event) (inactivity : Span) : Event :=
  { event with inactivityMilliseconds := some (saturate inactivity.milliseconds) }

def withCount (event : Event) (count : Nat) : Event :=
  { event with count := some (saturate count) }

/-- Report that a subscriber missed events. -/
def overflow (subscriber reason : String) : Event :=
  { kind := .subscriberOverflow, subscriber := some subscriber, reason := some reason }

/-- Report that a subscriber panicked. -/
def panicked (subscriber info : String) : Event :=
  { kind := .subscriberPanicked, subscriber := some subscriber, reason := some info }

def isOverflow (event : Event) : Bool :=
  event.kind == .subscriberOverflow

def isPanic (event : Event) : Bool :=
  event.kind == .subscriberPanicked

/-- Events paired with their numbers, which count up from `start` in order of
creation. -/
def numbered (start : Nat) (events : List Event) : List (Nat × Event) :=
  (List.range' start events.length).zip events

end Event

end BoundedScene
