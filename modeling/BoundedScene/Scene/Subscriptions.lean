import BoundedScene.SceneError

/-!
Contract: who waits for which signal.

Owns:
- `Subscriptions`, the waiters of each topic in order of registration;
- registration, and the signal that takes every waiter of its topic.

A waiter is the number of a call.  Waiters that nobody listens to any more are
removed on every registration and every signal, together with topics that are
left without a waiter; they never count.

Does not own: which calls still listen.
-/

namespace BoundedScene

/-- The waiters of a topic, in order of registration. -/
structure Topic where
  name : String
  waiters : List Nat
deriving DecidableEq, Repr

/-- The topics that somebody registered for. -/
structure Subscriptions where
  topics : List Topic := []
deriving DecidableEq, Repr

namespace Subscriptions

/-- The registered waiters of a topic. -/
def waiters (subscriptions : Subscriptions) (name : String) : List Nat :=
  match subscriptions.topics.find? fun topic => topic.name == name with
  | some topic => topic.waiters
  | none => []

/-- Every registered waiter. -/
def allWaiters (subscriptions : Subscriptions) : List Nat :=
  subscriptions.topics.flatMap Topic.waiters

/-- Remove waiters that nobody listens to, and topics left without one. -/
def prune (isLive : Nat → Bool) (subscriptions : Subscriptions) : Subscriptions :=
  ⟨(subscriptions.topics.map fun topic =>
      { topic with waiters := topic.waiters.filter isLive }).filter
    fun topic => !topic.waiters.isEmpty⟩

/-- Add a waiter at the end of a topic. -/
def enroll (name : String) (waiter : Nat) : List Topic → List Topic
  | [] => [⟨name, [waiter]⟩]
  | topic :: rest =>
      if topic.name = name then { topic with waiters := topic.waiters ++ [waiter] } :: rest
      else topic :: enroll name waiter rest

/-- Register a waiter for a topic. -/
def subscribe (isLive : Nat → Bool) (subscriptions : Subscriptions) (name : String)
    (waiter : Nat) : Subscriptions :=
  ⟨enroll name waiter (subscriptions.prune isLive).topics⟩

/-- Take a topic off the table together with its waiters that somebody still listens to.  It
fails when there is none. -/
def signal (isLive : Nat → Bool) (subscriptions : Subscriptions) (name : String) :
    Except SceneError (List Nat) × Subscriptions :=
  let pruned := subscriptions.prune isLive
  let others : Subscriptions := ⟨pruned.topics.filter fun topic => topic.name != name⟩
  -- Pruning has removed the rest; this second look is for those who leave in between.
  match (pruned.waiters name).filter isLive with
  | [] => (.error (.noSubscriber name), others)
  | woken => (.ok woken, others)

end Subscriptions

end BoundedScene
