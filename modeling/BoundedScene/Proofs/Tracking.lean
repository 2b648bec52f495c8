import BoundedScene.Proofs.Audience
import BoundedScene.Proofs.EventStream
import BoundedScene.Proofs.TrackerFamily
import BoundedScene.Scene.Lineup
import Mathlib.Data.List.Sort

/-!
Contract: the tracker shows the keys that the scene holds.

Owns:
- `Tracker.Holds`, a tracker that shows exactly given keys;
- what each event of the backend does to a tracker, against what the command behind it
  does to the prop table;
- `Mirrored`, the invariant that ties a tracker of all events to the table.

Main statement: `tracker_mirrors_props`.

Does not own: which events reach a tracker.
-/

namespace BoundedScene

/-! ## The keys of a tracker -/

namespace Tracker

/-- The tracker shows the given keys, each of them once and in ascending order. -/
structure Holds (tracker : Tracker) (keys : List String) : Prop where
  ascending : tracker.keys.Pairwise (· < ·)
  same : tracker.keys.Perm keys

theorem insertKey_perm {key : String} {keys : List String} (fresh : key ∉ keys) :
    (insertKey key keys).Perm (key :: keys) := by
  induction keys with
  | nil => exact List.Perm.refl _
  | cons first rest inductionHypothesis =>
      obtain ⟨other, unseen⟩ := not_or.mp (mt List.mem_cons.mpr fresh)
      unfold insertKey
      split
      · exact List.Perm.refl _
      · exact ((inductionHypothesis unseen).cons first).trans (List.Perm.swap ..)

theorem textLe_iff (left right : String) : textLe left right = true ↔ left ≤ right := by
  unfold textLe
  rw [Bool.not_eq_true', decide_eq_false_iff_not, not_lt]

/-- The keys shown are the given ones in text order. -/
theorem Holds.snapshot_eq {tracker : Tracker} {keys : List String} (holds : tracker.Holds keys) :
    tracker.snapshot = keys.mergeSort textLe := by
  have sorted : (keys.mergeSort textLe).Pairwise fun left right => textLe left right = true := by
    refine List.pairwise_mergeSort (fun first second third => ?_) (fun left right => ?_) keys
    · simp only [textLe_iff]
      exact le_trans
    · simp only [Bool.or_eq_true, textLe_iff]
      exact le_total left right
  have shown : tracker.keys.Pairwise fun left right => textLe left right = true :=
    holds.ascending.imp fun before => (textLe_iff _ _).mpr before.le
  refine List.Perm.eq_of_pairwise (fun left right _ _ notAfter notBefore => ?_) shown sorted
    (holds.same.trans (List.mergeSort_perm keys textLe).symm)
  exact le_antisymm ((textLe_iff _ _).mp notAfter) ((textLe_iff _ _).mp notBefore)

/-! ## What a tracker makes of events -/

/-- Events that the backend did not publish do not concern a tracker. -/
theorem observe_foreign {event : Event} (foreign : event.isFromBackend = false)
    (tracker : Tracker) : tracker.observe event = tracker := by
  unfold Event.isFromBackend at foreign
  unfold observe
  cases kind : event.kind <;> simp_all

theorem observeAll_backend (events : List Event) (tracker : Tracker) :
    tracker.observeAll (events.filter Event.isFromBackend) = tracker.observeAll events := by
  induction events generalizing tracker with
  | nil => rfl
  | cons first rest inductionHypothesis =>
      cases own : first.isFromBackend with
      | true =>
          rw [List.filter_cons_of_pos own]
          exact inductionHypothesis (tracker.observe first)
      | false =>
          rw [List.filter_cons_of_neg (by simp [own]), inductionHypothesis]
          show tracker.observeAll rest = (tracker.observe first).observeAll rest
          rw [observe_foreign own]

theorem Holds.store {tracker : Tracker} {keys : List String} (holds : tracker.Holds keys)
    {key : String} (fresh : key ∉ keys) :
    Holds ⟨insertKey key tracker.keys⟩ (keys ++ [key]) := by
  have unseen : key ∉ tracker.keys := fun member => fresh (holds.same.subset member)
  have inserted := (insertKey_perm unseen).trans (holds.same.cons key)
  exact ⟨insertKey_ascending key holds.ascending,
    inserted.trans (List.perm_append_singleton key keys).symm⟩

theorem Holds.remove {tracker : Tracker} {keys : List String} (holds : tracker.Holds keys)
    (key : String) :
    Holds ⟨tracker.keys.filter (· != key)⟩ (keys.filter (· != key)) where
  ascending := holds.ascending.sublist List.filter_sublist
  same := holds.same.filter _

theorem observeAll_append (tracker : Tracker) (early late : List Event) :
    tracker.observeAll (early ++ late) = (tracker.observeAll early).observeAll late :=
  List.foldl_append

end Tracker

namespace Session

variable {V : Type} {session before after : Session V}

/-- What a tracker shows that has seen everything the backend published. -/
def tracked (session : Session V) : Tracker :=
  ({} : Tracker).observeAll session.backendEvents

theorem tracked_append {events : List Event}
    (told : after.backendEvents = before.backendEvents ++ events) :
    after.tracked = before.tracked.observeAll events := by
  unfold tracked
  rw [told, Tracker.observeAll_append]

theorem absent_of_find?_none {table : PropTable V} {key : String}
    (missing : table.find? key = none) : key ∉ table.props.map StoredProp.key := by
  intro member
  obtain ⟨prop, stored, same⟩ := List.mem_map.mp member
  have differs := List.find?_eq_none.mp missing prop stored
  simp [same] at differs

theorem keys_filter (props : List (StoredProp V)) (key : String) :
    (props.filter fun prop => prop.key != key).map StoredProp.key
      = (props.map StoredProp.key).filter (· != key) := by
  rw [List.filter_map]
  rfl

/-- The event of a processed command tells a tracker what the command did to the table: a
store that was accepted adds its key, a dispose that found its prop removes it although the
cleanup failed, and everything else leaves the table as it is. -/
theorem tracked_effect {tracker : Tracker} {envelope : Envelope V}
    (holds : tracker.Holds (before.props.props.map StoredProp.key)) :
    (tracker.observe (announcement envelope.command (before.entryFor envelope).response
        (before.effect envelope.caller envelope.command).woken)).Holds
      ((before.effect envelope.caller envelope.command).props.props.map StoredProp.key) := by
  unfold entryFor
  cases command : envelope.command with
  | store prop =>
      cases found : before.props.find? prop.key with
      | none =>
          simp only [effect, PropTable.store, found]
          have added := holds.store (absent_of_find?_none found)
          rwa [← List.map_singleton, ← List.map_append] at added
      | some other =>
          simp only [effect, PropTable.store, found]
          exact holds
  | fetch key =>
      cases found : before.props.find? key <;>
        · simp only [effect, PropTable.fetch, found]
          exact holds
  | dispose key =>
      cases found : before.props.find? key with
      | none =>
          simp only [effect, PropTable.remove, found]
          exact holds
      | some prop =>
          have removed := holds.remove key
          rw [← keys_filter] at removed
          simp only [effect, PropTable.remove, found, PropTable.erase]
          split
          case h_1 error failed =>
            obtain ⟨cause, rfl⟩ := cleanupFailure?_key failed
            rw [PropTable.key_of_find? found]
            exact removed
          case h_2 => exact removed
  | signal topic =>
      have fits := before.fits_effect envelope.caller (.signal topic)
      have same : (before.effect envelope.caller (.signal topic)).props = before.props := by
        unfold effect
        dsimp only
        split <;> rfl
      rw [same]
      cases response : (before.effect envelope.caller (.signal topic)).response with
      | ok reply => exact holds
      | error error =>
          rw [response] at fits
          cases fits
          exact holds
  | subscribe topic => exact holds

/-- A tracker of everything that the backend published shows what the commands left in the
table, and nothing once the backend has returned. -/
structure Mirrored (session : Session V) : Prop where
  recalls : session.backend ≠ .returned →
    session.tracked.Holds ((Processed.leftover session.ledger).map StoredProp.key)
  forgets : session.backend = .returned → session.tracked = {}

theorem IsInitial.mirrored (initial : session.IsInitial) : session.Mirrored where
  recalls _ := by
    unfold tracked
    rw [initial.events, initial.ledger]
    exact ⟨List.Pairwise.nil, List.Perm.refl []⟩
  forgets returned := by
    rw [initial.backend] at returned
    cases returned

/-- A step without a command and without the end of the backend. -/
theorem Mirrored.proceed (mirrored : before.Mirrored) (tracked : after.tracked = before.tracked)
    (ledger : after.ledger = before.ledger)
    (backend : after.backend = .returned ↔ before.backend = .returned) : after.Mirrored where
  recalls runs := by
    rw [tracked, ledger]
    exact mirrored.recalls (mt backend.mpr runs)
  forgets returned := tracked.trans (mirrored.forgets (backend.mp returned))

theorem Mirrored.quiet (mirrored : before.Mirrored) {middle : Session V}
    {log : List (Happening V)} {changes : List (CallChange V)}
    (calm : ∀ happening ∈ log, happening.isCalm = true)
    (growth : Evolves log changes [] middle after)
    (events : middle.backendEvents = before.backendEvents)
    (happenings : middle.happenings = before.happenings)
    (backend : middle.backend = before.backend) : after.Mirrored := by
  refine mirrored.proceed (tracked_append (events ▸ growth.events)) ?_ ?_
  · rw [ledger_of_happenings before (happenings ▸ growth.happenings),
      Happening.processed_of_calm calm, List.append_nil]
  · rw [growth.backend, backend]

theorem Mirrored.serve (mirrored : before.Mirrored) (holding : before.Holding)
    (serving : before.isServing) (envelope : Envelope V)
    (rest : Mailbox (Envelope V) × Option Nat) : (before.serveOne envelope rest).Mirrored := by
  have still := serveOne_isServing serving envelope rest
  obtain ⟨backend, -, growth⟩ := serveOne_evolves serving envelope rest
  refine ⟨fun _ => ?_, fun returned => absurd still (not_serving_of_returned returned)⟩
  have table := holding.kept serving.runs
  have held := mirrored.recalls fun returned => not_serving_of_returned returned serving
  rw [← table] at held
  have left : Processed.leftover (before.serveOne envelope rest).ledger
      = (before.effect envelope.caller envelope.command).props.props := by
    rw [ledger_of_happenings before growth.happenings, before.processed_serveLog,
      before.effect_props envelope, table]
    simp [Processed.leftover]
  rw [left, tracked_append growth.events]
  exact tracked_effect held

theorem Mirrored.finish {log : List (Happening V)} {heralds : List Event}
    {error : Option SceneError} (cause : EndCause before log heralds error after) :
    after.Mirrored := by
  refine ⟨fun running => absurd cause.backend running, fun _ => ?_⟩
  rw [tracked_append cause.evolves.events, farewell, ← List.append_assoc,
    Tracker.observeAll_append, endedEvent_eq]
  rfl

theorem Mirrored.advance (mirrored : before.Mirrored) (holding : before.Holding)
    (step : Advance before after) : after.Mirrored := by
  cases step with
  | drifts growth => exact mirrored.quiet (by simp) growth rfl rfl rfl
  | makes request => exact mirrored.quiet (by simp) (before.makeCall_evolves request) rfl rfl rfl
  | turns found =>
      obtain ⟨log, changes, mailbox, turn, growth, -⟩ := before.resumeCall_turnsBy _ _ found
      exact mirrored.quiet (fun happening member => (turn.isByCall happening member).calm) growth
        rfl rfl rfl
  | cancels found unfinished =>
      exact mirrored.quiet (by simp [Happening.isCalm]) (before.cancel_evolves found unfinished).1
        rfl rfl rfl
  | opens fresh =>
      have growth := before.openUp_evolves
      have told : before.openUp.tracked = before.tracked := by
        rw [tracked_append growth.events, startedEvent_eq]
        rfl
      refine mirrored.proceed told ?_ ?_
      · rw [ledger_of_happenings before growth.happenings]
        exact List.append_nil _
      · rw [growth.backend, fresh]
        simp
  | @processes envelope rest serving _ _ _ => exact mirrored.serve holding serving envelope rest
  | ends serving cause => exact Mirrored.finish cause
  | loses =>
      exact mirrored.proceed rfl rfl backend_dropTasks_returned

theorem Passed.mirrored (passed : Passed session) : session.Mirrored := by
  induction passed with
  | initial initial => exact initial.mirrored
  | advance passed step inductionHypothesis =>
      exact inductionHypothesis.advance passed.holding step

/-! ## A tracker among the subscribers -/

/-- A subscriber that takes part has the queue of its number among those that do. -/
theorem profile_of_lane? {lineup : Lineup} {number index : Nat} {entry : LineupEntry}
    (named : lineup.entries[number]? = some entry) (takesPart : lineup.lane? number = some index) :
    lineup.profiles[index]? = some entry.subscriber.profile := by
  unfold Lineup.lane? at takesPart
  rw [named] at takesPart
  dsimp only at takesPart
  split at takesPart
  case isFalse => cases takesPart
  case isTrue present =>
    cases takesPart
    obtain ⟨within, rfl⟩ := List.getElem?_eq_some_iff.mp named
    have whole : lineup.entries = lineup.entries.take number
        ++ lineup.entries[number] :: lineup.entries.drop (number + 1) := by
      rw [← List.drop_eq_getElem_cons within, List.take_append_drop]
    have taking : lineup.entries.filter LineupEntry.takesPart
        = (lineup.entries.take number).filter LineupEntry.takesPart
          ++ lineup.entries[number]
            :: (lineup.entries.drop (number + 1)).filter LineupEntry.takesPart := by
      conv_lhs => rw [whole]
      rw [List.filter_append, List.filter_cons_of_pos present]
    unfold Lineup.profiles
    rw [List.getElem?_map, taking, List.getElem?_append_right (Nat.le_refl _), Nat.sub_self]
    rfl

/-- The keys of the props, in text order. -/
def keysHeld (session : Session V) : List String :=
  (session.props.props.map StoredProp.key).mergeSort textLe

/-- What a tracker shows that has handled every event published so far. -/
theorem Passed.tracker_view (passed : Passed session) {lane : Lane}
    (member : lane ∈ session.delivery.lanes)
    (all : lane.handled.length = session.delivery.feed.published.length) :
    Subscriber.tracker.view lane.handled [] = .keys session.tracked.snapshot := by
  rw [Subscriber.view, List.append_nil, passed.handled_all member all,
    ← Tracker.observeAll_backend]
  rfl

/-- Whatever settings a scene has, whoever else subscribes to it, and however it runs and
ends: whenever a tracker among its subscribers has handled every event published so far, it
shows exactly the keys in the prop table, sorted; after the end these are none.  A scene
whose tasks were destroyed has no table any more; there the tracker shows the keys that the
commands left in it. -/
theorem tracker_mirrors_props {settings : Settings} {calls : List LineupCall}
    {visiting : VisitingOrder V} {start : Session V}
    (created : create? settings (Lineup.ofCalls calls).profiles visiting = some start)
    {number index : Nat} {entry : LineupEntry}
    (named : (Lineup.ofCalls calls).entries[number]? = some entry)
    (tracks : entry.subscriber = .tracker)
    (takesPart : (Lineup.ofCalls calls).lane? number = some index) (schedule : List (Move V)) :
    let session := start.moves schedule
    ∃ lane, session.delivery.lanes[index]? = some lane ∧ lane.profile = Profile.tracker
      ∧ (lane.handled.length = session.delivery.feed.published.length →
        (session.backend ≠ .lost →
          Subscriber.tracker.view lane.handled [] = .keys session.keysHeld)
        ∧ (session.backend = .returned → Subscriber.tracker.view lane.handled [] = .keys [])
        ∧ (session.backend = .lost → Subscriber.tracker.view lane.handled [] = .keys
          (((Processed.leftover session.ledger).map StoredProp.key).mergeSort textLe))) := by
  intro session
  have passed : Passed session := ((Reachable.created created).moves schedule).passed
  have profiles : session.delivery.lanes.map Lane.profile = (Lineup.ofCalls calls).profiles :=
    (start.moves_profiles schedule).trans (isFresh_of_create? created).profiles
  have profile := profile_of_lane? named takesPart
  rw [tracks, ← profiles, List.getElem?_map] at profile
  obtain ⟨lane, found, tracker⟩ := Option.map_eq_some_iff.mp profile
  refine ⟨lane, found, tracker, fun all => ?_⟩
  have view := passed.tracker_view (List.mem_of_getElem? found) all
  have recalls (running : session.backend ≠ .returned) : session.tracked.snapshot
      = ((Processed.leftover session.ledger).map StoredProp.key).mergeSort textLe :=
    (passed.mirrored.recalls running).snapshot_eq
  have forgets (returned : session.backend = .returned) : session.tracked.snapshot = [] := by
    rw [passed.mirrored.forgets returned]
    rfl
  refine ⟨fun kept => ?_, fun returned => ?_, fun lost => ?_⟩
  · rw [view]
    cases runs : session.backendRuns with
    | true =>
        have running : session.backend ≠ .returned := by
          intro returned
          simp [backendRuns, returned] at runs
        rw [recalls running, keysHeld, passed.holding.kept runs]
    | false =>
        have returned : session.backend = .returned := by
          cases backend : session.backend <;> simp_all [backendRuns]
        rw [forgets returned, keysHeld, passed.holding.emptied runs]
        exact congrArg SubscriberView.keys List.mergeSort_nil.symm
  · rw [view, forgets returned]
  · rw [view, recalls (by simp [lost])]

/-- A recorder that takes in nothing stands before a tracker.  Two props are stored; one is
disposed of with a failing cleanup, and the tracker handles whatever there is. -/
def trackedRun : List (Move Nat) :=
  let failing : Cleanup := { outcome := .fail (.foreign "jammed") }
  [.resume .backend,
    .act (.call (.store "b" 1 none)), .resume (.call 0), .resume .backend,
    .act (.call (.store "a" 2 (some failing))), .resume (.call 1), .resume .backend,
    .act (.call (.dispose "a")), .resume (.call 2), .resume .backend,
    .resume (.delivery .courier), .resume (.delivery (.lane 1))]

/-- The subscribers of that run. -/
def trackedLineup : List LineupCall :=
  [.add (.recorder { name := "slow", capacity := 1, gated := true }), .add .tracker]

theorem tracker_mirrors_props_trackedRun :
    ∃ start : Session Nat,
      create? {} (Lineup.ofCalls trackedLineup).profiles .oldestFirst = some start
        ∧ (start.moves trackedRun).props.props.map StoredProp.key = ["b"]
        ∧ ∃ lane, (start.moves trackedRun).delivery.lanes[1]? = some lane
          ∧ lane.handled.length = 7
          ∧ Subscriber.tracker.view lane.handled [] = .keys (start.moves trackedRun).keysHeld := by
  refine ⟨_, rfl, by decide +kernel, ?_⟩
  obtain ⟨lane, found, -, shows⟩ := tracker_mirrors_props
    (show create? {} (Lineup.ofCalls trackedLineup).profiles VisitingOrder.oldestFirst
      = some (_ : Session Nat) from rfl)
    (show (Lineup.ofCalls trackedLineup).entries[1]? = some _ from rfl) rfl rfl trackedRun
  have handled : (some lane).map (fun lane => lane.handled.length) = some 7 := by
    rw [← found]
    decide +kernel
  have size : lane.handled.length = 7 := Option.some.inj handled
  exact ⟨lane, found, size, (shows (size.trans (by decide +kernel))).1 (by decide +kernel)⟩

end Session

end BoundedScene
