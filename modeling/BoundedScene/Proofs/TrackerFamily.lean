import BoundedScene.Proofs.ByteOrder
import BoundedScene.Subscriber.Tracker
import Mathlib.Data.List.Induction
import Mathlib.Data.String.Basic

/-!
Contract: what the members of a family of trackers show, whatever events they are handed.

Owns:
- the place of a key among the keys that a tracker holds;
- `Event.decides`, the events that say whether a key is held, and `LeavesStored`, that the
  latest of them left it stored;
- the events handed to a family.

Main statement: `TrackerFamily.members_show_the_last_word`.

An event decides about each key by itself: whatever was said of a key before is overridden, and
an event that does not decide about a key leaves it as it was.

Does not own: which events a scene publishes.
-/

namespace BoundedScene

/-! ## The latest word about a key -/

namespace Event

/-- The event says whether a key is held. -/
def decides (key : String) (event : Event) : Bool :=
  match event.kind with
  | .propStored => event.key == some key
  | .propDisposed => event.key == some key
  | .cleanupFailed => event.key == some key
  | .sceneEnded => true
  | _ => false

/-- The event says of no key whether it is held. -/
def isInert (event : Event) : Bool :=
  event.kind != .sceneEnded
    && (event.key == none || !([.propStored, .propDisposed, .cleanupFailed].elem event.kind))

end Event

/-- Of the events that say whether a key is held, the latest one says that it was stored. -/
def LeavesStored (key : String) (events : List Event) : Prop :=
  ∃ event, (events.filter (Event.decides key)).getLast? = some event ∧ event.kind = .propStored

/-- The latest event decides, if it says anything about the key. -/
theorem leavesStored_concat (key : String) (events : List Event) (event : Event) :
    LeavesStored key (events ++ [event]) ↔
      if event.decides key then event.kind = .propStored else LeavesStored key events := by
  unfold LeavesStored
  rw [List.filter_append]
  by_cases decided : event.decides key
  · rw [List.filter_cons_of_pos decided, if_pos decided]
    simp
  · rw [List.filter_cons_of_neg decided, if_neg decided]
    simp

/-! ## The keys that a tracker holds -/

namespace Tracker

theorem mem_insertKey {key other : String} {keys : List String} :
    other ∈ insertKey key keys ↔ other = key ∨ other ∈ keys := by
  induction keys with
  | nil => simp [insertKey]
  | cons first rest inductionHypothesis =>
      unfold insertKey
      split
      · exact List.mem_cons
      · split
        · subst first
          simp
        · rw [List.mem_cons, inductionHypothesis, List.mem_cons, or_left_comm]

theorem insertKey_ascending (key : String) {keys : List String}
    (ascending : keys.Pairwise (· < ·)) : (insertKey key keys).Pairwise (· < ·) := by
  induction keys with
  | nil => exact List.pairwise_singleton _ _
  | cons first rest inductionHypothesis =>
      have least := (List.pairwise_cons.mp ascending).1
      have later := (List.pairwise_cons.mp ascending).2
      unfold insertKey
      split
      case isTrue before =>
        apply List.pairwise_cons.mpr ⟨?_, ascending⟩
        intro next member
        by_cases same : next = first
        · exact same ▸ before
        · exact before.trans (least next ((List.mem_cons.mp member).resolve_left same))
      case isFalse notBefore =>
        split
        case isTrue => exact ascending
        case isFalse other =>
          apply List.pairwise_cons.mpr ⟨?_, inductionHypothesis later⟩
          intro next member
          by_cases same : next = key
          · exact same ▸ lt_of_le_of_ne (not_lt.mp notBefore) (Ne.symm other)
          · exact least next ((mem_insertKey.mp member).resolve_left same)

theorem observe_ascending (tracker : Tracker) (event : Event)
    (ascending : tracker.keys.Pairwise (· < ·)) :
    (tracker.observe event).keys.Pairwise (· < ·) := by
  unfold observe
  split
  · exact insertKey_ascending _ ascending
  · exact ascending.sublist List.filter_sublist
  · exact ascending.sublist List.filter_sublist
  · exact List.Pairwise.nil
  · exact ascending

/-- An event that decides about a key is all that matters for it, and any other event leaves it
as it was. -/
theorem mem_observe (tracker : Tracker) (event : Event) (key : String) :
    key ∈ (tracker.observe event).keys ↔
      if event.decides key then event.kind = .propStored else key ∈ tracker.keys := by
  unfold observe Event.decides
  split
  case h_1 other kind named =>
    by_cases same : other = key
    · simp [kind, named, mem_insertKey, same]
    · simp [kind, named, mem_insertKey, same, Ne.symm same]
  case h_2 other kind named =>
    by_cases same : other = key
    · simp [kind, named, same]
    · simp [kind, named, same, Ne.symm same]
  case h_3 other kind named =>
    by_cases same : other = key
    · simp [kind, named, same]
    · simp [kind, named, same, Ne.symm same]
  case h_4 kind => simp [kind]
  case h_5 _ stored disposed failed =>
    -- The kinds that can decide about a key name none here.
    have unnamed (kind : event.kind = .propStored ∨ event.kind = .propDisposed
        ∨ event.kind = .cleanupFailed) : event.key = none := by
      cases named : event.key with
      | none => rfl
      | some other =>
          rcases kind with kind | kind | kind
          · exact (stored other kind named).elim
          · exact (disposed other kind named).elim
          · exact (failed other kind named).elim
    cases kind : event.kind <;> simp_all

theorem observe_inert (tracker : Tracker) {event : Event} (inert : event.isInert = true) :
    tracker.observe event = tracker := by
  unfold Event.isInert at inert
  unfold observe
  split <;> simp_all

theorem observeAll_ascending (tracker : Tracker) (events : List Event)
    (ascending : tracker.keys.Pairwise (· < ·)) :
    (tracker.observeAll events).keys.Pairwise (· < ·) :=
  List.foldlRecOn (motive := fun reached : Tracker => reached.keys.Pairwise (· < ·))
    events observe ascending fun reached soFar event _ => reached.observe_ascending event soFar

/-- A tracker that is handed events holds the keys that they leave stored. -/
theorem mem_observeAll (events : List Event) (key : String) :
    key ∈ (({} : Tracker).observeAll events).keys ↔ LeavesStored key events := by
  induction events using List.reverseRecOn with
  | nil => simp [observeAll, LeavesStored]
  | append_singleton events event inductionHypothesis =>
      have onward : ({} : Tracker).observeAll (events ++ [event])
          = (({} : Tracker).observeAll events).observe event := List.foldl_append
      rw [onward, mem_observe, leavesStored_concat, inductionHypothesis]

end Tracker

namespace TrackerFamily

/-! ## A family at work -/

/-- The event that a request hands to the family. -/
def Request.event? : Request → Option Event
  | .observe _ event => some event
  | .clone _ => none

/-- The events handed to a family, oldest first, whichever member got them. -/
def handed (requests : List Request) : List Event :=
  requests.filterMap Request.event?

/-- The family after requests. -/
def after (family : TrackerFamily) (requests : List Request) : TrackerFamily :=
  (family.serveAll requests).2

theorem after_cons (family : TrackerFamily) (first : Request) (rest : List Request) :
    family.after (first :: rest) = (family.serve first).after rest :=
  rfl

/-- The members share one tracker, so it has observed what any of them was handed. -/
theorem shared_after (family : TrackerFamily) (requests : List Request) :
    (family.after requests).shared = family.shared.observeAll (handed requests) := by
  induction requests generalizing family with
  | nil => rfl
  | cons first rest inductionHypothesis =>
      rw [after_cons, inductionHypothesis]
      cases first with
      | observe => rfl
      | clone => rfl

theorem snapshots_eq (family : TrackerFamily) :
    family.snapshots = List.replicate family.members family.shared.snapshot := by
  unfold snapshots
  rw [show family.snapshot = fun _ => family.shared.snapshot from rfl, List.map_const',
    List.length_range]

/-- What is shown after a request is what every member shows at that moment. -/
theorem shown_eq (family : TrackerFamily) (requests : List Request) {count : Nat}
    (within : count < requests.length) :
    (family.serveAll requests).1[count]?
      = some (family.after (requests.take (count + 1))).shared.snapshot := by
  induction requests generalizing family count with
  | nil => exact absurd within (Nat.not_lt_zero count)
  | cons first rest inductionHypothesis =>
      rw [List.take_succ_cons, after_cons]
      cases count with
      | zero => rfl
      | succ count => exact inductionHypothesis (family.serve first) (Nat.lt_of_succ_lt_succ within)

/-- However a tracker is cloned, and whichever events of whatever kind are handed to whichever
members in whatever order: at every moment all members show the same list, and what is shown
after a step is that list.  It is in strictly ascending order of the bytes of the keys, and it
holds the keys of which the latest deciding event says that they were stored.  An event that
decides about no key changes nothing. -/
theorem members_show_the_last_word (requests : List Request) :
    (∀ count ≤ requests.length, ∃ keys,
      let family := ({} : TrackerFamily).after (requests.take count)
      family.snapshots = List.replicate family.members keys
        ∧ (keys.map Text.bytes).Pairwise (· < ·)
        ∧ (∀ key, key ∈ keys ↔ LeavesStored key (handed (requests.take count)))
        ∧ (0 < count → (serveAll {} requests).1[count - 1]? = some keys))
      ∧ ∀ (family : TrackerFamily) (member : Nat) (event : Event), event.isInert = true →
        family.serve (.observe member event) = family := by
  constructor
  · intro count within
    have shared := shared_after {} (requests.take count)
    refine ⟨_, snapshots_eq _, ?_, ?_, ?_⟩
    · rw [shared, Tracker.snapshot, List.pairwise_map]
      have ascending := Tracker.observeAll_ascending {} (handed (requests.take count))
        List.Pairwise.nil
      exact ascending.imp fun before => Text.bytes_lt_bytes_iff.mpr before
    · intro key
      rw [shared]
      exact Tracker.mem_observeAll _ key
    · intro begun
      have last : count - 1 + 1 = count := Nat.sub_add_cancel begun
      rw [shown_eq {} requests (by omega), last]
  · intro family member event inert
    show { family with shared := family.shared.observe event } = family
    rw [Tracker.observe_inert family.shared inert]

/-- A clone takes part, and a key that is stored again after a failed cleanup is held. -/
example :
    let stored (key : String) := (Event.plain .propStored).withKey key
    let failed := (Event.plain .cleanupFailed).withKey "é"
    (({} : TrackerFamily).after [.observe 0 (stored "é"), .clone 0, .observe 1 (stored "z"),
      .observe 0 failed, .observe 1 (stored "é")]).snapshots = [["z", "é"], ["z", "é"]] := by
  decide

end TrackerFamily

end BoundedScene
