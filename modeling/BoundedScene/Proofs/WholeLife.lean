import BoundedScene.Proofs.AbortRequests
import BoundedScene.Proofs.Absorption
import BoundedScene.Proofs.Feeding
import Mathlib.Data.List.Induction

/-!
Contract: the subscribers of a scene see its whole life.

Owns:
- `Tends`, what one move of a scene does to the delivery of its events;
- `Devoted`: the courier of a scene closes the queues only once the scene has ended and
  everything published was read;
- the moment in which it does so;
- what a receiver taken right after the build has obtained.

Main statement: `subscribers_see_whole_life`.

Does not own: that the subscribers come to an end at all.
-/

namespace BoundedScene

/-- The event that a receiver obtained, if it did. -/
def Receipt.event? : Receipt → Option Event
  | .event received => some received
  | _ => none

/-- A receiver that is not overtaken goes on by what it obtains. -/
theorem Bus.Obtains.read {bus : Bus} {closed : Bool} {receiver next : Receiver}
    {receipt : Receipt} (obtains : Obtains bus closed receiver receipt next)
    (gapless : ∀ missed, receipt ≠ .lagged missed)
    (within : receiver.position ≤ bus.published.length) :
    bus.published.take receiver.position ++ receipt.event?.toList
        = bus.published.take next.position
      ∧ next.position ≤ bus.published.length := by
  cases obtains with
  | event present =>
      obtain ⟨inside, rfl⟩ := List.getElem?_eq_some_iff.mp present
      exact ⟨(List.take_succ_eq_append_getElem inside).symm, inside⟩
  | @gap missed => exact absurd rfl (gapless missed)
  | nothing => exact ⟨by cases closed <;> exact List.append_nil _, within⟩

namespace Delivery

variable {before after : Delivery}

/-- The courier stays where it is and is not told anything. -/
structure Steady (before after : Delivery) : Prop where
  position : after.position = before.position
  courier : after.courier = before.courier
  ended : after.ended = before.ended
  feedAbandoned : after.feedAbandoned = before.feedAbandoned
  apart : after.reports.isSome = before.reports.isSome
  published : before.feed.published <+: after.feed.published
  follows : Follows before after

theorem Fed.steady (fed : Fed before after) : Steady before after := by
  obtain ⟨feed, woken, grown, rfl⟩ := fed
  exact ⟨rfl, rfl, rfl, rfl, rfl, grown, .refl before⟩

theorem permit_steady (delivery : Delivery) (index count : Nat) :
    Steady delivery { delivery.permit index count with woken := [] } := by
  have reported := permit_reports delivery index count
  have follows : Follows delivery (delivery.permit index count) :=
    .of_modify (lanes_permit delivery index count) fun lane => .permitted count
  exact ⟨reported.position, reported.courier, reported.ended, reported.feedAbandoned,
    reported.apart, reported.published, follows⟩

theorem resume_lost (task : DeliveryTask) {delivery : Delivery} (lost : delivery.courier = .lost) :
    (resume task delivery).courier = .lost := by
  cases task with
  | lane index => exact (resumeLane_reports index delivery).courier.trans lost
  | courier =>
      show delivery.resumeCourier.courier = .lost
      unfold resumeCourier
      rw [lost]
      exact lost

/-- From the feed the courier only goes to close the queues. -/
theorem resume_forwarding (task : DeliveryTask) {delivery : Delivery}
    (forwarding : delivery.courier = .forwarding) :
    (resume task delivery).courier = .forwarding ∨ (resume task delivery).isDone := by
  cases task with
  | lane index => exact .inl ((resumeLane_reports index delivery).courier.trans forwarding)
  | courier =>
      show delivery.resumeCourier.courier = .forwarding ∨ delivery.resumeCourier.isDone
      unfold resumeCourier
      rw [forwarding]
      dsimp only
      split
      · right
        unfold isDone join
        dsimp only
        split
        · exact .inr rfl
        · exact .inl rfl
      · exact .inl rfl

end Delivery

open Delivery (Fed Steady)

namespace Session

variable {V : Type} {session before after initial : Session V}

/-! ## One move -/

/-- What a move does to the delivery. -/
inductive Tends (before after : Session V) : Prop where
  | feeds (steady : Steady before.delivery after.delivery)
  | ends {fed : Delivery} {woken : List DeliveryTask} (steady : Steady before.delivery fed)
      (told : after.delivery = { fed with ended := true, woken })
      (returned : after.backend = .returned)
  | turns (task : DeliveryTask)
      (turned : after.delivery = { Delivery.resume task before.delivery with woken := [] })
  | loses (lost : after.delivery = before.delivery.lose)

theorem FedUntilEnd.tends (fed : FedUntilEnd before after) : Tends before after := by
  rcases fed with fed | ⟨⟨last, fed, woken, told⟩, returned⟩
  · exact .feeds fed.steady
  · exact .ends fed.steady told returned

theorem move_tends (session : Session V) (move : Move V) : Tends session (session.move move) := by
  have still {after : Session V} (same : after.delivery = session.delivery) : Tends session after :=
    .feeds (Fed.of_same same).steady
  cases move with
  | act deed =>
      cases deed with
      | cancel id => exact still (session.delivery_cancel id)
      | drop handle => exact still (delivery_noteHandles _)
      | release lane count => exact .feeds (session.delivery.permit_steady lane count)
      | dropTasks => exact .loses rfl
      | _ => exact still rfl
  | resume task =>
      cases task with
      | backend => exact FedUntilEnd.tends (session.dequeue .backend).resumeBackend_fed
      | call id => exact .feeds ((session.dequeue (.call id)).resumeCall_fed id).steady
      | delivery task => exact .turns task rfl
  | serve commands =>
      unfold Session.move
      dsimp only
      split
      case h_1 absolute inactivity backend =>
        exact FedUntilEnd.tends (serve_fed commands ⟨absolute, inactivity, backend⟩)
      case h_2 => exact still rfl
  | reach instant => exact still rfl

/-! ## The courier -/

/-- The courier of a scene serves its end, and no worker is lost as long as it is not lost
itself.

- `told`: it is told to end once the backend has returned;
- `atWork`: it waits at the feed or has left it for good. -/
structure Devoted (session : Session V) : Prop where
  onFeed : session.delivery.reports.isSome = false
  sent : session.delivery.feedAbandoned = false
  told : session.delivery.ended = true → session.backend = .returned
  atWork : session.delivery.courier = .forwarding ∨ session.delivery.isAway
  kept : session.delivery.courier ≠ .lost →
    ∀ lane ∈ session.delivery.lanes, lane.worker ≠ .lost

theorem devoted_of_create? {settings : Settings} {profiles : List Profile}
    {visiting : VisitingOrder V} (created : create? settings profiles visiting = some session)
    (watched : profiles ≠ []) :
    session.Devoted ∧ session.delivery.courier = .forwarding := by
  have fresh := isFresh_of_create? created
  unfold create? at created
  split at created
  case isFalse => cases created
  case isTrue =>
    obtain ⟨feed, fed, rfl⟩ := Option.map_eq_some_iff.mp created
    have forwarding : (if profiles.isEmpty then Courier.finished else .forwarding)
        = .forwarding := by simp [watched]
    refine ⟨⟨rfl, rfl, nofun, .inl forwarding, fun _ lane member => ?_⟩, forwarding⟩
    rw [fresh.lanes] at member
    obtain ⟨profile, -, rfl⟩ := List.mem_map.mp member
    nofun

/-- A courier that has left the feed has done so for good, having read as much as before. -/
theorem carried_of_away {before after : Delivery} (accounts : before.Accounts [])
    (changes : Delivery.Changes before after) (done : before.isDone) :
    after.carried = before.carried :=
  Delivery.carried_of_longer accounts.position (changes.away (.inl done)).2 changes.buses.1

theorem returned_advances (passed : Passed before) (returned : before.backend = .returned)
    (run : Advances before after) :
    after.backend = .returned ∧ after.sceneEvents = before.sceneEvents := by
  obtain ⟨result, set⟩ := Option.isSome_iff_exists.mp (passed.steered.returned returned).1
  induction run with
  | refl => exact ⟨returned, rfl⟩
  | @tail middle _ earlier step inductionHypothesis =>
      have ended := ((passed.ended set).advances passed earlier).1
      exact ⟨(ended.advance (passed.advances earlier).steered step).returned,
        (ended.sceneEvents step).trans inductionHypothesis.2⟩

theorem Devoted.steady {fed : Delivery} {woken : List DeliveryTask} (devoted : before.Devoted)
    (steady : Steady before.delivery fed) (ended : Bool)
    (same : after.delivery = { fed with ended, woken })
    (told : ended = true → after.backend = .returned) : after.Devoted := by
  have courier : after.delivery.courier = before.delivery.courier := by rw [same, ← steady.courier]
  refine ⟨?_, ?_, ?_, ?_, ?_⟩
  · rw [same]
    exact steady.apart.trans devoted.onFeed
  · rw [same]
    exact steady.feedAbandoned.trans devoted.sent
  · rw [same]
    exact told
  · unfold Delivery.isAway Delivery.isDone
    rw [courier]
    exact devoted.atWork
  · rw [courier, same]
    intro present lane member
    obtain ⟨earlier, known, course⟩ := steady.follows.lane member
    exact course.kept (devoted.kept present earlier known)

theorem Devoted.turn (devoted : before.Devoted) (task : DeliveryTask)
    (turned : after.delivery = { Delivery.resume task before.delivery with woken := [] })
    (stays : before.backend = .returned → after.backend = .returned) : after.Devoted := by
  obtain ⟨position, courier, reported⟩ := Delivery.resume_frame task before.delivery
  have changes := Delivery.resume_changes task before.delivery
  refine ⟨?_, ?_, ?_, ?_, ?_⟩
  · rw [turned]
    exact reported.apart.trans devoted.onFeed
  · rw [turned]
    exact reported.feedAbandoned.trans devoted.sent
  · rw [turned]
    exact fun ended => stays (devoted.told (reported.ended.symm.trans ended))
  · rw [turned]
    rcases devoted.atWork with forwarding | away
    · exact (Delivery.resume_forwarding task forwarding).imp_right .inl
    · exact .inr (changes.away away).1
  · rw [turned]
    intro present lane member
    obtain ⟨earlier, known, course⟩ := changes.follows.lane member
    exact course.kept (devoted.kept (fun lost => present (Delivery.resume_lost task lost)) earlier
      known)

theorem Devoted.lose (devoted : before.Devoted) (accounts : before.delivery.Accounts [])
    (lost : after.delivery = before.delivery.lose)
    (stays : before.backend = .returned → after.backend = .returned) : after.Devoted := by
  have courier : after.delivery.courier
      = if before.delivery.courierRuns then .lost else before.delivery.courier := by
    rw [lost]
    rfl
  have gone : after.delivery.courier = .lost ∨ before.delivery.courier = .finished := by
    rw [courier]
    rcases devoted.atWork with forwarding | (joining | finished) | already
    · exact .inl (by simp [Delivery.courierRuns, forwarding])
    · exact .inl (by simp [Delivery.courierRuns, joining])
    · exact .inr finished
    · exact .inl (by simp [already])
  refine ⟨?_, ?_, ?_, ?_, ?_⟩
  · rw [lost]
    exact devoted.onFeed
  · rw [lost]
    exact devoted.sent
  · rw [lost]
    exact fun ended => stays (devoted.told ended)
  · rcases gone with already | finished
    · exact .inr (.inr already)
    · exact .inr (.inl (.inr (by simp [courier, Delivery.courierRuns, finished])))
  · intro present lane member
    have finished := gone.resolve_left present
    rw [lost] at member
    obtain ⟨earlier, known, rfl⟩ := List.mem_map.mp member
    have idle := accounts.joined finished earlier known
    have same : earlier.lose = earlier := by simp [Lane.lose, idle]
    rw [same]
    exact devoted.kept (by simp [finished]) earlier known

/-- A courier that is done carries what it has carried; it comes to be done in a scene that
has ended, having read everything. -/
theorem Devoted.move (devoted : before.Devoted) (passed : Passed before) (move : Move V) :
    (before.move move).Devoted
      ∧ (before.delivery.isDone →
        (before.move move).delivery.carried = before.delivery.carried)
      ∧ (¬before.delivery.isDone → (before.move move).delivery.isDone →
        (before.move move).backend = .returned
          ∧ (before.move move).delivery.carried = (before.move move).delivery.feed.published) := by
  have stays (returned : before.backend = .returned) : (before.move move).backend = .returned :=
    (returned_advances passed returned (before.move_advances move)).1
  have accounts := passed.accounts
  have tends := before.move_tends move
  generalize before.move move = after at stays tends ⊢
  have unread {fed : Delivery} (steady : Steady before.delivery fed) :
      fed.carried = before.delivery.carried ∧ (fed.isDone → before.delivery.isDone) := by
    refine ⟨Delivery.carried_of_longer accounts.position steady.position steady.published, ?_⟩
    unfold Delivery.isDone
    rw [steady.courier]
    exact id
  cases tends with
  | feeds steady =>
      refine ⟨devoted.steady steady after.delivery.ended rfl fun ended => ?_,
        fun _ => (unread steady).1, fun notYet done => absurd ((unread steady).2 done) notYet⟩
      exact stays (devoted.told (steady.ended.symm.trans ended))
  | ends steady told returned =>
      refine ⟨devoted.steady steady true told fun _ => returned, fun _ => ?_,
        fun notYet done => absurd ((unread steady).2 ?_) notYet⟩
      · rw [told]
        exact (unread steady).1
      · rw [told] at done
        exact done
  | turns task turned =>
      have changes := Delivery.resume_changes task before.delivery
      refine ⟨devoted.turn task turned stays, fun done => ?_, fun notYet done => ?_⟩
      · rw [turned]
        show (Delivery.resume task before.delivery).carried = _
        exact carried_of_away accounts changes done
      · rw [turned] at done ⊢
        obtain closing | drained :=
          (Delivery.resume_done task before.delivery done).resolve_left notYet
        · rcases devoted.atWork with forwarding | (joining | finished) | lost <;> simp_all
        · obtain ⟨position, courier, reported⟩ := Delivery.resume_frame task before.delivery
          have open_ : (Delivery.resume task before.delivery).feedAbandoned = false :=
            reported.feedAbandoned.trans devoted.sent
          have ended := drained.2.resolve_right (by simp [open_])
          exact ⟨stays (devoted.told (reported.ended.symm.trans ended)),
            List.take_of_length_le drained.1⟩
  | loses lost =>
      refine ⟨devoted.lose accounts lost stays, fun _ => by rw [lost]; rfl, fun notYet done => ?_⟩
      refine absurd ?_ notYet
      rw [lost] at done
      rcases devoted.atWork with forwarding | already | away
      · simp [Delivery.lose, Delivery.isDone, Delivery.courierRuns, forwarding] at done
      · exact already
      · simp [Delivery.lose, Delivery.isDone, Delivery.courierRuns, away] at done

/-! ## A run -/

theorem Devoted.moves (schedule : List (Move V)) (devoted : initial.Devoted)
    (passed : Passed initial) : (initial.moves schedule).Devoted := by
  induction schedule using List.reverseRecOn with
  | nil => exact devoted
  | append_singleton schedule move inductionHypothesis =>
      rw [moves_concat]
      have reached := passed.advances (initial.moves_advances schedule)
      exact (inductionHypothesis.move reached move).1

/-- The moment in which the courier came to close the queues: everything published by then,
in a scene that had ended, is what it ever carries. -/
theorem Devoted.drained (schedule : List (Move V)) (devoted : initial.Devoted)
    (passed : Passed initial) (notYet : ¬initial.delivery.isDone)
    (done : (initial.moves schedule).delivery.isDone) :
    ∃ early move late, schedule = early ++ move :: late
      ∧ ¬(initial.moves early).delivery.isDone
      ∧ (initial.moves (early ++ [move])).delivery.isDone
      ∧ (initial.moves (early ++ [move])).backend = .returned
      ∧ (initial.moves schedule).delivery.carried
        = (initial.moves (early ++ [move])).delivery.feed.published := by
  induction schedule using List.reverseRecOn with
  | nil => exact absurd done notYet
  | append_singleton schedule last inductionHypothesis =>
      obtain ⟨-, keeps, closes⟩ := (devoted.moves schedule passed).move
        (passed.advances (initial.moves_advances schedule)) last
      rw [← moves_concat] at keeps closes
      by_cases before : (initial.moves schedule).delivery.isDone
      · obtain ⟨early, move, late, rfl, opens, ends, returned, carried⟩ :=
          inductionHypothesis before
        exact ⟨early, move, late ++ [last], by simp, opens, ends, returned,
          (keeps before).trans carried⟩
      · obtain ⟨returned, carried⟩ := closes before done
        exact ⟨schedule, last, [], rfl, before, done, returned, carried⟩

/-! ## One subscriber -/

/-- Once the courier has finished, every worker has finished. -/
theorem Devoted.finished (devoted : session.Devoted) (passed : Passed session)
    (finished : session.delivery.courier = .finished) {lane : Lane}
    (member : lane ∈ session.delivery.lanes) : lane.worker = .finished := by
  have gone := passed.accounts.joined finished lane member
  have present := devoted.kept (by simp [finished]) lane member
  cases worker : lane.worker with
  | live => simp [Lane.isLive, worker] at gone
  | finished => rfl
  | lost => exact absurd worker present

/-- A subscriber that missed nothing has then handled what the courier carried. -/
theorem Devoted.handled (devoted : session.Devoted) (passed : Passed session)
    (finished : session.delivery.courier = .finished) {lane : Lane}
    (member : lane ∈ session.delivery.lanes) (complete : lane.dropped = 0) :
    lane.handled = session.delivery.carried := by
  have worker := devoted.finished passed finished member
  obtain ⟨missed, discarded, account⟩ := passed.accounts.lanes lane member
  have balance := account.balance
  have counter := account.counter
  have kept := account.kept (by simp [worker])
  have idle := account.idle (by simp [Lane.isLive, worker])
  have order := account.order
  have large : 0 < Lane.largestDropped := by decide
  rw [idle, List.append_nil, List.nil_append] at order
  rw [idle, List.nil_append] at balance
  refine order.eq_of_length ?_
  simp only [List.length_nil] at balance
  omega

/-- What was published by an end, cut at the event that tells of it. -/
theorem Reachable.life (reachable : Reachable session) (returned : session.backend = .returned) :
    ∃ earlier last reports, session.delivery.feed.published = earlier ++ last :: reports
      ∧ last.kind = .sceneEnded ∧ (∀ event ∈ earlier, event.kind ≠ .sceneEnded)
      ∧ ∀ event ∈ reports, event.isReport = true := by
  obtain ⟨own, last, scene, kind, -, unended⟩ := (reachable.tellsAborts returned).order
  obtain ⟨earlier, rest, published, ownEarlier, ownRest⟩ := List.filter_eq_append_iff.mp scene
  obtain ⟨reports, late, rfl, quiet, shown, silent⟩ := List.filter_eq_cons_iff.mp ownRest
  refine ⟨earlier ++ reports, last, late, by simp [published], kind, ?_, ?_⟩
  · intro event member ended
    have reported : event.isReport = false := by
      simp [Event.isReport, Event.isOverflow, Event.isPanic, ended]
    rcases List.mem_append.mp member with member | member
    · refine unended event ?_ ended
      rw [← ownEarlier]
      exact List.mem_filter.mpr ⟨member, by simp [reported]⟩
    · exact quiet event member (by simp [reported])
  · intro event member
    have hidden := List.filter_eq_nil_iff.mp silent event member
    simpa using hidden

theorem published_advances (run : Advances before after) :
    before.delivery.feed.published <+: after.delivery.feed.published := by
  induction run with
  | refl => exact List.prefix_rfl
  | tail _ step inductionHypothesis => exact inductionHypothesis.trans step.published

/-- What is published after the end are reports. -/
theorem reports_after_end (passed : Passed before) (returned : before.backend = .returned)
    (run : Advances before after) :
    ∃ reports, after.delivery.feed.published = before.delivery.feed.published ++ reports
      ∧ ∀ event ∈ reports, event.isReport = true := by
  obtain ⟨reports, same⟩ := published_advances run
  refine ⟨reports, same.symm, fun event member => ?_⟩
  have silent : after.sceneEvents = before.sceneEvents :=
    (returned_advances passed returned run).2
  unfold sceneEvents Delivery.sceneEvents at silent
  rw [← same, List.filter_append, List.append_right_eq_self] at silent
  simpa using List.filter_eq_nil_iff.mp silent event member

/-! ## A receiver of one's own -/

/-- What a receiver that was taken right after the build has obtained of the events of a
scene.  It reads whenever it likes. -/
inductive Overhears (initial : Session V) : Session V → List Receipt → Receiver → Prop where
  | taken : Overhears initial initial [] initial.delivery.feed.subscribe
  | waits {session : Session V} {receipts : List Receipt} {receiver : Receiver} (move : Move V)
      (overheard : Overhears initial session receipts receiver) :
      Overhears initial (session.move move) receipts receiver
  | reads {session : Session V} {receipts : List Receipt} {receiver : Receiver}
      (overheard : Overhears initial session receipts receiver) :
      Overhears initial session
        (receipts ++ [(session.delivery.feed.receive session.busClosed receiver).1])
        (session.delivery.feed.receive session.busClosed receiver).2

/-- A receiver that is never overtaken obtains every event, once and in order. -/
theorem Overhears.events {receipts : List Receipt} {receiver : Receiver}
    (overheard : Overhears initial session receipts receiver)
    (fresh : initial.delivery.feed.published = [])
    (gapless : ∀ missed, .lagged missed ∉ receipts) :
    receipts.filterMap Receipt.event?
        = session.delivery.feed.published.take receiver.position
      ∧ receiver.position ≤ session.delivery.feed.published.length := by
  induction overheard with
  | taken => simp [Bus.subscribe, fresh]
  | @waits session receipts receiver move overheard inductionHypothesis =>
      obtain ⟨events, within⟩ := inductionHypothesis gapless
      obtain ⟨more, grown⟩ := published_advances (session.move_advances move)
      rw [← grown, List.take_append_of_le_length within, List.length_append]
      exact ⟨events, Nat.le_add_right_of_le within⟩
  | @reads session receipts receiver overheard inductionHypothesis =>
      obtain ⟨events, within⟩ := inductionHypothesis fun missed member =>
        gapless missed (List.mem_append_left _ member)
      have obtained := (session.delivery.feed.receive_obtains session.busClosed receiver).read
        (fun missed same => gapless missed (by simp [same])) within
      rw [List.filterMap_append, events, ← obtained.1]
      refine ⟨?_, obtained.2⟩
      cases obtained : (session.delivery.feed.receive session.busClosed receiver).1.event? <;>
        simp [obtained]

/-! ## The whole life -/

/-- All that a subscriber has handled of a scene that was built as `initial` and run by
`schedule`, when it saw the whole life of the scene.

- `life`: everything from the build to the end of the scene, then only reports;
- `moment`: it is everything that was published until the courier, having found the bus
  empty, came to close the queues;
- `published`: it is what was published, once each and in order, and only reports follow;
- `overheard`: a receiver taken right after the build that is never overtaken obtains the
  same, once it has read as far. -/
structure SeesWholeLife (initial : Session V) (schedule : List (Move V)) (handled : List Event) :
    Prop where
  life : ∃ earlier last reports, handled = earlier ++ last :: reports
    ∧ last.kind = .sceneEnded ∧ (∀ event ∈ earlier, event.kind ≠ .sceneEnded)
    ∧ ∀ event ∈ reports, event.isReport = true
  moment : ∃ early move late, schedule = early ++ move :: late
    ∧ ¬(initial.moves early).delivery.isDone
    ∧ (initial.moves (early ++ [move])).delivery.isDone
    ∧ (initial.moves (early ++ [move])).delivery.feed.published = handled
  published : ∃ reports, (initial.moves schedule).delivery.feed.published = handled ++ reports
    ∧ ∀ event ∈ reports, event.isReport = true
  overheard : ∀ (receipts : List Receipt) (receiver : Receiver),
    Overhears initial (initial.moves schedule) receipts receiver →
      (∀ missed, .lagged missed ∉ receipts) → handled.length ≤ receiver.position →
        (receipts.filterMap Receipt.event?).take handled.length = handled

/-- What the courier of a scene has carried when it is done is the whole life of the
scene. -/
theorem Devoted.sees_whole_life (schedule : List (Move V)) (devoted : initial.Devoted)
    (reachable : Reachable initial) (fresh : initial.delivery.feed.published = [])
    (notYet : ¬initial.delivery.isDone) (done : (initial.moves schedule).delivery.isDone) :
    SeesWholeLife initial schedule (initial.moves schedule).delivery.carried := by
  obtain ⟨early, move, late, rfl, opens, closes, returned, carried⟩ :=
    devoted.drained schedule reachable.passed notYet done
  have ended := reachable.moves (early ++ [move])
  have split : initial.moves (early ++ move :: late)
      = (initial.moves (early ++ [move])).moves late := by
    rw [← moves_append, List.append_assoc, List.singleton_append]
  have life := ended.life returned
  have later := reports_after_end ended.passed returned
    ((initial.moves (early ++ [move])).moves_advances late)
  rw [← split] at later
  rw [← carried] at life later
  refine ⟨life, ⟨early, move, late, rfl, opens, closes, carried.symm⟩, later, ?_⟩
  intro receipts receiver overheard gapless far
  obtain ⟨reports, published, -⟩ := later
  rw [(overheard.events fresh gapless).1, List.take_take, Nat.min_eq_left far, published,
    List.take_left]

/-- The subscribers of a scene see its whole life.  When the courier has finished, in any
run of a scene that was built with subscribers, every worker has stopped, and whoever missed
nothing, neither because the courier was overtaken nor because its queue was full, has
handled all events from the build to the end, once each and in order. -/
theorem subscribers_see_whole_life {settings : Settings} {profiles : List Profile}
    {visiting : VisitingOrder V} (created : create? settings profiles visiting = some initial)
    (watched : profiles ≠ []) (schedule : List (Move V))
    (finished : (initial.moves schedule).delivery.courier = .finished) :
    (initial.moves schedule).delivery.lanes.map Lane.profile = profiles
      ∧ ∀ lane ∈ (initial.moves schedule).delivery.lanes, lane.worker = .finished
        ∧ (lane.dropped = 0 → SeesWholeLife initial schedule lane.handled) := by
  obtain ⟨devoted, forwarding⟩ := devoted_of_create? created watched
  have reachable := Reachable.created created
  have passed := (reachable.moves schedule).passed
  have fresh := isFresh_of_create? created
  have kept := devoted.moves schedule reachable.passed
  have notYet : ¬initial.delivery.isDone := by simp [Delivery.isDone, forwarding]
  refine ⟨(initial.moves_profiles schedule).trans fresh.profiles, fun lane member => ?_⟩
  refine ⟨kept.finished passed finished member, fun complete => ?_⟩
  rw [kept.handled passed finished member complete]
  exact devoted.sees_whole_life schedule reachable fresh.published notYet (.inr finished)

/-- The scene about to start with one subscriber. -/
def recordedScene : Session Nat :=
  { plain with
    agenda := { ready := [.delivery (.lane 0), .backend, .delivery .courier] }
    delivery :=
      { feed := .ofCapacity 1024, lanes := [{ profile := { name := "recorder" } }]
        courier := .forwarding } }

/-- The scene is aborted before it starts. -/
def abortBeforeStart : List (Move Nat) :=
  [.act (.call (.abort (.foreign "enough"))), .resume (.call 0), .resume (.delivery (.lane 0)),
    .resume .backend, .resume (.delivery .courier), .resume (.delivery (.lane 0)),
    .resume (.delivery .courier)]

theorem subscribers_see_abortBeforeStart :
    create? {} [{ name := "recorder" }] = some recordedScene
      ∧ (recordedScene.moves abortBeforeStart).delivery.lanes.map
          (fun lane => lane.handled.map Event.kind)
        = [[.abortRequested, .sceneStarted, .sceneEnding, .sceneEnded]]
      ∧ ∀ lane ∈ (recordedScene.moves abortBeforeStart).delivery.lanes,
        lane.worker = .finished ∧ SeesWholeLife recordedScene abortBeforeStart lane.handled := by
  have created : create? {} [{ name := "recorder" }] = some recordedScene := rfl
  have seen := (subscribers_see_whole_life created (by simp) abortBeforeStart
    (by decide +kernel)).2
  have complete : ∀ lane ∈ (recordedScene.moves abortBeforeStart).delivery.lanes,
      lane.dropped = 0 := by decide +kernel
  exact ⟨created, by decide +kernel,
    fun lane member => ⟨(seen lane member).1, (seen lane member).2 (complete lane member)⟩⟩

end Session

end BoundedScene
