import BoundedScene.Proofs.Agenda
import BoundedScene.Proofs.Carriage
import BoundedScene.Subscriber.Fanout

/-!
Contract: no event goes missing between a bus and its subscribers.

Owns:
- `Fanout.Move`, what can happen to a fan-out in any order, and the events it emits;
- `Fanout.Custody`, the balance of every lane at every moment of a run;
- the moment in which the courier found the bus empty.

Main statement: `every_event_is_accounted_for`.

A move hands the turn to any task, ready or not, and the courier may give its turn away
after any number of readings, so the runs cover every interleaving.

Does not own: the balance of a single lane.
-/

namespace BoundedScene

namespace Fanout

/-! ## Moves -/

/-- A move of the world around a fan-out. -/
inductive Move where
  | act (step : Step)
  /-- A task takes its turn. -/
  | resume (task : DeliveryTask)
  /-- The courier reads for a while and gives its turn away. -/
  | read (reads : Nat)
deriving DecidableEq, Repr

/-- A task that takes its turn is not ready any more. -/
def dequeue (fanout : Fanout) (task : DeliveryTask) : Fanout :=
  { fanout with agenda := { fanout.agenda with ready := fanout.agenda.ready.erase task } }

def move (fanout : Fanout) : Move → Fanout
  | .act step => fanout.perform step
  | .resume task => resume task (fanout.dequeue task)
  | .read reads => fanout.update (Delivery.readOn reads)

/-- Make moves in order. -/
def moves (fanout : Fanout) (schedule : List Move) : Fanout :=
  schedule.foldl move fanout

/-- The events that the owner emits in a move. -/
def emission (fanout : Fanout) : Move → List Event
  | .act (.emit event times) => if fanout.isOwned then List.replicate times event else []
  | _ => []

/-- The events that the owner emits in a run, in order. -/
def emitted : Fanout → List Move → List Event
  | _, [] => []
  | fanout, first :: later => fanout.emission first ++ emitted (fanout.move first) later

/-! ## The turns of a fan-out -/

theorem noteCompletion_frame (fanout : Fanout) :
    fanout.noteCompletion.errand = fanout.errand
      ∧ fanout.noteCompletion.delivery = fanout.delivery := by
  unfold noteCompletion
  split <;> exact ⟨rfl, rfl⟩

/-- What every turn of a delivery keeps, the turns of a fan-out keep, and the errand. -/
theorem keeps_of_resume {holds : Delivery → Prop}
    (turn : ∀ task delivery, holds delivery →
      holds { Delivery.resume task delivery with woken := [] }) (errand : Option Errand) :
    Turns.Keeps fun fanout : Fanout => fanout.errand = errand ∧ holds fanout.delivery where
  resume {fanout task later} held ready := by
    obtain ⟨sameErrand, sameDelivery⟩ := noteCompletion_frame
      (({ fanout with agenda := { Turns.agenda fanout with ready := later } } : Fanout).update
        (Delivery.resume task))
    exact ⟨sameErrand.trans held.1, sameDelivery ▸ turn task fanout.delivery held.2⟩
  reach instant held := held

/-! ## Errands -/

/-- Whether the courier can be where it is with a given errand. -/
def stage (errand : Option Errand) : Courier → Bool
  | .resting => errand.isNone
  | .forwarding => errand == some .forward
  | .carrying => errand == some .forward
  | .closing => errand == some .shutdown
  | .joining => errand.isSome
  | .finished => errand.isSome
  | .lost => errand.isSome

theorem resting_of_stage {courier : Courier} (within : stage none courier = true) :
    courier = .resting := by
  cases courier <;> first | rfl | cases within

/-- A small step keeps the courier within its errand, and only a courier that forwards
reads. -/
theorem stage_change {errand : Option Errand} {before after : Delivery}
    (change : Delivery.Change before after) (within : stage errand before.courier = true) :
    stage errand after.courier = true
      ∧ (errand ≠ some .forward → after.position = before.position) := by
  have forwards (atFeed : before.isAtFeed) : errand = some .forward := by
    rcases atFeed with forwarding | carrying
    · simpa [stage, forwarding] using within
    · simpa [stage, carrying] using within
  cases change with
  | publishes event =>
      have woken := Delivery.wakeIf_reports { before with feed := before.feed.publish event }
        before.isForwarding .courier
      exact ⟨woken.courier ▸ within, fun _ => woken.position⟩
  | reads atFeed read =>
      obtain ⟨_, -, -, reported⟩ := read.reports
      exact ⟨reported.courier ▸ within, fun other => absurd (forwards atFeed) other⟩
  | works index =>
      have reported := Delivery.resumeLane_reports index before
      exact ⟨reported.courier ▸ within, fun _ => reported.position⟩
  | permits index count =>
      have reported := Delivery.permit_reports before index count
      exact ⟨reported.courier ▸ within, fun _ => reported.position⟩
  | joins ceased =>
      have given : errand.isSome = true := by
        rcases ceased with ⟨forwarding, -⟩ | closing | joining
        · rw [forwards (.inl forwarding)]
          rfl
        · rw [show errand = some .shutdown by simpa [stage, closing] using within]
          rfl
        · simpa [stage, joining] using within
      refine ⟨?_, fun _ => rfl⟩
      unfold Delivery.join
      cases before.workersGone <;> exact given
  | turns atFeed still =>
      refine ⟨?_, fun _ => rfl⟩
      rw [forwards atFeed]
      rcases still with rfl | rfl <;> rfl
  | closes => exact ⟨within, fun _ => rfl⟩
  | wakes => exact ⟨within, fun _ => rfl⟩
  | ends => exact ⟨within, fun _ => rfl⟩
  | abandons => exact ⟨within, fun _ => rfl⟩

theorem stage_changes {errand : Option Errand} {before after : Delivery}
    (changes : Delivery.Changes before after) (within : stage errand before.courier = true) :
    stage errand after.courier = true
      ∧ (errand ≠ some .forward → after.position = before.position) := by
  induction changes with
  | refl => exact ⟨within, fun _ => rfl⟩
  | tail _ last inductionHypothesis =>
      obtain ⟨soFar, same⟩ := inductionHypothesis
      obtain ⟨still, again⟩ := stage_change last soFar
      exact ⟨still, fun other => (again other).trans (same other)⟩

/-! ## The moment in which the feed was found empty -/

/-- A courier that forwards from a bus of its own has read everything when it closes the
queues. -/
structure Drains (delivery : Delivery) : Prop where
  apart : delivery.reports.isSome = true
  forwards : stage (some .forward) delivery.courier = true
  drained : delivery.isDone → delivery.isDrained

theorem Drains.resume {delivery : Delivery} (drains : Drains delivery) (task : DeliveryTask) :
    Drains { Delivery.resume task delivery with woken := [] } := by
  obtain ⟨_, _, reported⟩ := delivery.resume_frame task
  have changes := delivery.resume_changes task
  refine ⟨reported.apart.trans drains.apart, (stage_changes changes drains.forwards).1, ?_⟩
  intro done
  show (Delivery.resume task delivery).isDrained
  rcases delivery.resume_done task done with already | closing | drained
  · obtain ⟨behind, ceased⟩ := drains.drained already
    obtain ⟨-, position⟩ := changes.away (.inl already)
    have feed : (Delivery.resume task delivery).feed = delivery.feed :=
      reported.untouched drains.apart
    refine ⟨?_, ?_⟩
    · rwa [feed, position]
    · rwa [reported.ended, reported.feedAbandoned]
  · have forwards := drains.forwards
    rw [closing] at forwards
    cases forwards
  · exact drained

theorem Drains.readOn {delivery : Delivery} (drains : Drains delivery) (reads : Nat) :
    Drains { delivery.readOn reads with woken := [] } := by
  unfold Delivery.readOn
  split
  case isTrue =>
    obtain ⟨_, reported⟩ :=
      ({ delivery with courier := .carrying } : Delivery).carry_frame reads
    refine ⟨reported.apart.trans drains.apart, rfl, ?_⟩
    rintro (impossible | impossible) <;> cases impossible
  case isFalse => exact ⟨drains.apart, drains.forwards, drains.drained⟩

/-! ## Custody -/

/-- The delivery of a fan-out has every event in its books: `emitted` were given to it
by its owner, the others come from the feed. -/
structure Custody (emitted : List Event) (errand : Option Errand) (delivery : Delivery) :
    Prop where
  accounts : delivery.Accounts emitted
  within : stage errand delivery.courier = true
  unread : errand ≠ some .forward → delivery.position.position = 0

namespace Custody

variable {emitted : List Event} {errand : Option Errand} {before after : Delivery}

theorem changes (custody : Custody emitted errand before)
    (changes : Delivery.Changes before after) : Custody emitted errand after := by
  obtain ⟨within, still⟩ := stage_changes changes custody.within
  refine ⟨custody.accounts.changes changes, within, fun other => ?_⟩
  rw [still other]
  exact custody.unread other

/-- Events that the owner emits are entered in the books. -/
theorem emits (custody : Custody emitted none before) (events : List Event) :
    Custody (emitted ++ events) none (events.foldl Delivery.emit before)
      ∧ Delivery.Follows before (events.foldl Delivery.emit before) := by
  induction events generalizing emitted before with
  | nil =>
      rw [List.append_nil]
      exact ⟨custody, .refl before⟩
  | cons first rest inductionHypothesis =>
      have unread := custody.unread (by simp)
      have resting := resting_of_stage custody.within
      have reported := Delivery.emit_reports before first
      have next : Custody (emitted ++ [first]) none (before.emit first) :=
        { accounts := custody.accounts.emit unread resting first
          within := by rw [reported.courier, resting]; rfl
          unread := fun _ => by rw [reported.position, unread] }
      obtain ⟨whole, follows⟩ := inductionHypothesis next
      rw [List.append_assoc] at whole
      have offered : Delivery.Follows before (before.emit first) :=
        .of_map (Delivery.lanes_emit before first) fun _ => .offered first
      exact ⟨whole, offered.trans follows⟩

end Custody

/-! ## What a move amounts to -/

theorem settle_changes (fanout : Fanout) :
    (Turns.settle fanout).errand = fanout.errand
      ∧ Delivery.Changes fanout.delivery (Turns.settle fanout).delivery :=
  (keeps_of_resume (fun task _ changes =>
    (changes.trans (Delivery.resume_changes task _)).tail (.wakes [])) _).settle ⟨rfl, .refl⟩

theorem settle_drains {fanout : Fanout} (drains : Drains fanout.delivery) :
    Drains (Turns.settle fanout).delivery :=
  ((keeps_of_resume (fun task _ drains => drains.resume task) _).settle ⟨rfl, drains⟩).2

theorem update_changes {fanout : Fanout} {change : Delivery → Delivery}
    (changes : Delivery.Changes fanout.delivery (change fanout.delivery)) :
    Delivery.Changes fanout.delivery (fanout.update change).delivery :=
  changes.tail (.wakes [])

/-- What a move does to a fan-out: it emits, it is given away, its tasks are destroyed, or
its delivery goes on by small steps. -/
inductive Effect (before : Fanout) : Move → Fanout → Prop where
  | emits {event : Event} {times : Nat} {after : Fanout} (owned : before.isOwned = true)
      (errand : after.errand = before.errand)
      (delivery : after.delivery = { (List.replicate times event).foldl Delivery.emit
        before.delivery with woken := [] }) :
      Effect before (.act (.emit event times)) after
  | gives {errand : Errand} {after : Fanout} (owned : before.isOwned = true)
      (given : after = before.giveAway errand) : Effect before (.act (.give errand)) after
  | loses {after : Fanout} (errand : after.errand = before.errand)
      (delivery : after.delivery = before.delivery.lose) :
      Effect before (.act .dropTasks) after
  | goesOn {move : Move} {after : Fanout} (silent : before.emission move = [])
      (kept : move ≠ .act .dropTasks) (errand : after.errand = before.errand)
      (changes : Delivery.Changes before.delivery after.delivery)
      (drains : Drains before.delivery → Drains after.delivery
        ∨ after.delivery.courier = before.delivery.courier) : Effect before move after

theorem move_effect (fanout : Fanout) (move : Move) :
    Effect fanout move (fanout.move move) := by
  cases move with
  | act step =>
      show Effect fanout (.act step) (fanout.perform step)
      cases step with
      | emit event times =>
          dsimp only [perform]
          split
          case isTrue owned => exact .emits owned rfl rfl
          case isFalse given =>
            exact .goesOn (by simp [emission, given]) nofun rfl .refl .inl
      | publish event times =>
          dsimp only [perform]
          split
          case isTrue => exact .goesOn rfl nofun rfl .refl .inl
          case isFalse =>
            let published := (List.replicate times event).foldl Delivery.publish fanout.delivery
            have step : Delivery.Changes fanout.delivery published
                ∧ published.courier = fanout.delivery.courier :=
              List.foldlRecOn (motive := fun reached =>
                  Delivery.Changes fanout.delivery reached
                    ∧ reached.courier = fanout.delivery.courier) _ Delivery.publish ⟨.refl, rfl⟩
                fun reached soFar event _ =>
                  ⟨soFar.1.tail (.publishes event),
                    (Delivery.wakeIf_reports ..).courier.trans soFar.2⟩
            exact .goesOn rfl nofun rfl (step.1.tail (.wakes [])) fun _ => .inr step.2
      | isEmpty => exact .goesOn rfl nofun rfl .refl .inl
      | release subscriber count =>
          exact .goesOn rfl nofun rfl (update_changes (.single (.permits subscriber count)))
            fun _ => .inr (Delivery.permit_reports ..).courier
      | settle =>
          obtain ⟨errand, changes⟩ := fanout.settle_changes
          exact .goesOn rfl nofun errand changes fun drains => .inl (settle_drains drains)
      | give errand =>
          dsimp only [perform]
          split
          case isTrue owned => exact .gives owned rfl
          case isFalse => exact .goesOn rfl nofun rfl .refl .inl
      | tellEnd =>
          exact .goesOn rfl nofun rfl (update_changes (Delivery.tellEnd_changes _))
            fun _ => .inr (Delivery.wakeIf_reports ..).courier
      | dropFeed =>
          exact .goesOn rfl nofun rfl (update_changes (Delivery.abandonFeed_changes _))
            fun _ => .inr (Delivery.wakeIf_reports ..).courier
      | dropTasks => exact .loses rfl rfl
  | resume task =>
      obtain ⟨errand, delivery⟩ := noteCompletion_frame
        ((fanout.dequeue task).update (Delivery.resume task))
      have resumed : (fanout.move (.resume task)).delivery
          = { Delivery.resume task fanout.delivery with woken := [] } := delivery
      refine .goesOn rfl nofun errand ?_ fun drains => .inl ?_
      · rw [resumed]
        exact (fanout.delivery.resume_changes task).tail (.wakes [])
      · rw [resumed]
        exact drains.resume task
  | read reads =>
      exact .goesOn rfl nofun rfl (update_changes (Delivery.readOn_changes reads _))
        fun drains => .inl (drains.readOn reads)

theorem resting_of_isOwned {fanout : Fanout} (owned : fanout.isOwned = true) :
    fanout.delivery.courier = .resting := by
  simpa [isOwned] using owned

theorem giveAway_custody {emitted : List Event} {fanout : Fanout}
    (custody : Custody emitted fanout.errand fanout.delivery) (errand : Errand)
    (owned : fanout.isOwned = true) :
    Custody emitted (some errand) (fanout.giveAway errand).delivery := by
  have resting := resting_of_isOwned owned
  have unread := custody.unread ?_
  · refine ⟨⟨custody.accounts.lanes, custody.accounts.position, fun finished => ?_⟩, ?_,
      fun _ => unread⟩
    · cases errand <;> cases finished
    · cases errand <;> rfl
  · have within := custody.within
    rw [resting] at within
    intro given
    simp [stage, given] at within

/-- The books are kept in every move. -/
theorem custody_move {emitted : List Event} {fanout : Fanout}
    (custody : Custody emitted fanout.errand fanout.delivery) (move : Move) :
    Custody (emitted ++ fanout.emission move) (fanout.move move).errand
      (fanout.move move).delivery := by
  have effect := fanout.move_effect move
  generalize fanout.move move = after at effect
  cases effect with
  | @emits event times _ owned errand delivery =>
      have resting := resting_of_isOwned owned
      have owner : fanout.errand = none := by
        have within := custody.within
        rw [resting] at within
        simpa [stage] using within
      rw [owner] at custody errand
      rw [show fanout.emission (.act (.emit event times)) = List.replicate times event from
        if_pos owned, errand, delivery]
      exact (custody.emits _).1.changes (.single (.wakes []))
  | @gives errand _ owned given =>
      subst given
      rw [show fanout.emission (.act (.give errand)) = [] from rfl, List.append_nil]
      exact giveAway_custody custody _ owned
  | loses errand delivery =>
      rw [show fanout.emission (.act .dropTasks) = [] from rfl, List.append_nil, errand, delivery]
      refine ⟨custody.accounts.lose, ?_, custody.unread⟩
      have within := custody.within
      unfold Delivery.lose Delivery.courierRuns
      cases courier : fanout.delivery.courier <;> simp_all [stage]
  | goesOn silent _ errand changes =>
      rw [silent, List.append_nil, errand]
      exact custody.changes changes

/-- The lanes go on in every move that does not destroy the tasks. -/
theorem move_follows (fanout : Fanout) {move : Move} (kept : move ≠ .act .dropTasks) :
    Delivery.Follows fanout.delivery (fanout.move move).delivery := by
  have effect := fanout.move_effect move
  generalize fanout.move move = after at effect
  cases effect with
  | @emits event times _ owned errand delivery =>
      have offered : Delivery.Follows fanout.delivery
          ((List.replicate times event).foldl Delivery.emit fanout.delivery) :=
        List.foldlRecOn (motive := Delivery.Follows fanout.delivery) _ Delivery.emit
          (.refl fanout.delivery) fun reached soFar event _ =>
            soFar.trans (.of_map (Delivery.lanes_emit reached event) fun _ => .offered event)
      rw [delivery]
      exact offered
  | gives owned given =>
      subst given
      exact .refl fanout.delivery
  | loses => exact absurd rfl kept
  | goesOn _ _ _ changes => exact changes.follows

theorem move_profiles (fanout : Fanout) (move : Move) :
    (fanout.move move).delivery.lanes.map Lane.profile
      = fanout.delivery.lanes.map Lane.profile := by
  by_cases kept : move = .act .dropTasks
  · subst kept
    exact fanout.delivery.profiles_lose
  · exact (fanout.move_follows kept).profiles

/-! ## Runs -/

/-- The books are kept in every run, and only the destruction of the tasks makes a worker
lost. -/
theorem custody_moves (schedule : List Move) {emitted : List Event} {fanout : Fanout}
    (custody : Custody emitted fanout.errand fanout.delivery) :
    Custody (emitted ++ fanout.emitted schedule) (fanout.moves schedule).errand
        (fanout.moves schedule).delivery
      ∧ (fanout.moves schedule).delivery.lanes.map Lane.profile
        = fanout.delivery.lanes.map Lane.profile
      ∧ (Move.act .dropTasks ∉ schedule →
        Delivery.Follows fanout.delivery (fanout.moves schedule).delivery) := by
  induction schedule generalizing emitted fanout with
  | nil =>
      refine ⟨?_, rfl, fun _ => .refl fanout.delivery⟩
      rw [show fanout.emitted [] = [] from rfl, List.append_nil]
      exact custody
  | cons first later inductionHypothesis =>
      obtain ⟨kept, profiles, follows⟩ := inductionHypothesis (custody_move custody first)
      refine ⟨?_, profiles.trans (fanout.move_profiles first), fun undropped => ?_⟩
      · rwa [List.append_assoc] at kept
      · rw [List.mem_cons, not_or] at undropped
        exact (fanout.move_follows (Ne.symm undropped.1)).trans (follows undropped.2)

theorem move_apart (fanout : Fanout) (move : Move) :
    (fanout.move move).delivery.reports.isSome = fanout.delivery.reports.isSome := by
  have effect := fanout.move_effect move
  generalize fanout.move move = after at effect
  cases effect with
  | @emits event times _ _ _ delivery =>
      have reported : Delivery.Reports fanout.delivery
          ((List.replicate times event).foldl Delivery.emit fanout.delivery) :=
        List.foldlRecOn (motive := Delivery.Reports fanout.delivery) _ Delivery.emit
          (.refl fanout.delivery) fun reached soFar event _ =>
            soFar.trans (Delivery.emit_reports reached event)
      rw [delivery]
      exact reported.apart
  | gives _ given =>
      subst given
      rfl
  | loses _ delivery =>
      rw [delivery]
      rfl
  | goesOn _ _ _ changes => exact changes.buses.2

/-- Once the delivery is given away, its errand stands. -/
theorem errand_move {emitted : List Event} {fanout : Fanout} {errand : Errand}
    (custody : Custody emitted fanout.errand fanout.delivery)
    (given : fanout.errand = some errand) (move : Move) :
    (fanout.move move).errand = some errand := by
  have effect := fanout.move_effect move
  generalize fanout.move move = after at effect
  cases effect with
  | emits _ same => exact same.trans given
  | gives owned =>
      have within := custody.within
      have resting := resting_of_isOwned owned
      rw [resting, given] at within
      cases within
  | loses same => exact same.trans given
  | goesOn _ _ same => exact same.trans given

theorem errand_moves (schedule : List Move) {emitted : List Event} {fanout : Fanout}
    {errand : Errand} (custody : Custody emitted fanout.errand fanout.delivery)
    (given : fanout.errand = some errand) :
    (fanout.moves schedule).errand = some errand := by
  induction schedule generalizing emitted fanout with
  | nil => exact given
  | cons first later inductionHypothesis =>
      exact inductionHypothesis (custody_move custody first) (errand_move custody given first)

/-- A courier that has left the feed for good reads no more in any run, and nothing is
taken off the feed. -/
theorem away_moves (schedule : List Move) {fanout : Fanout} (away : fanout.delivery.isAway) :
    (fanout.moves schedule).delivery.position = fanout.delivery.position
      ∧ fanout.delivery.feed.published <+: (fanout.moves schedule).delivery.feed.published := by
  induction schedule generalizing fanout with
  | nil => exact ⟨rfl, List.prefix_rfl⟩
  | cons first later inductionHypothesis =>
      have owner : ¬fanout.isOwned = true := by
        intro owned
        have resting := resting_of_isOwned owned
        simp [Delivery.isAway, Delivery.isDone, resting] at away
      have step : (fanout.move first).delivery.isAway
          ∧ (fanout.move first).delivery.position = fanout.delivery.position
          ∧ fanout.delivery.feed.published <+: (fanout.move first).delivery.feed.published := by
        have effect := fanout.move_effect first
        generalize fanout.move first = after at effect
        cases effect with
        | emits owned => exact absurd owned owner
        | gives owned => exact absurd owned owner
        | loses _ delivery =>
            rw [delivery]
            refine ⟨?_, rfl, List.prefix_rfl⟩
            rcases away with (joining | finished) | lost
            · exact .inr (by simp [Delivery.lose, Delivery.courierRuns, joining])
            · exact .inl (.inr (by simp [Delivery.lose, Delivery.courierRuns, finished]))
            · exact .inr (by simp [Delivery.lose, Delivery.courierRuns, lost])
        | goesOn _ _ _ changes =>
            obtain ⟨still, position⟩ := changes.away away
            exact ⟨still, position, changes.buses.1⟩
      obtain ⟨still, position, published⟩ := step
      obtain ⟨samePosition, more⟩ := inductionHypothesis still
      exact ⟨samePosition.trans position, published.trans more⟩

/-- A courier that forwards from a bus of its own closes the queues in a moment in which it
has read everything. -/
theorem drained_move {emitted : List Event} {fanout : Fanout}
    (custody : Custody emitted fanout.errand fanout.delivery)
    (apart : fanout.delivery.reports.isSome = true) (notYet : ¬fanout.delivery.isDone)
    (move : Move) (done : (fanout.move move).delivery.isDone)
    (given : (fanout.move move).errand = some .forward) :
    (fanout.move move).delivery.isDrained := by
  have effect := fanout.move_effect move
  generalize fanout.move move = after at effect done given
  cases effect with
  | emits owned errand =>
      have resting := resting_of_isOwned owned
      have within := custody.within
      rw [resting, ← errand, given] at within
      cases within
  | @gives errand _ _ same =>
      subst same
      rcases done with impossible | impossible <;> cases errand <;> cases impossible
  | loses _ delivery =>
      rw [delivery] at done
      unfold Delivery.isDone Delivery.lose Delivery.courierRuns at done
      refine absurd ?_ notYet
      unfold Delivery.isDone
      cases courier : fanout.delivery.courier <;> simp_all
  | goesOn _ _ errand changes drains =>
      have within := custody.within
      rw [← errand, given] at within
      rcases drains ⟨apart, within, fun done => absurd done notYet⟩ with still | same
      · exact still.drained done
      · unfold Delivery.isDone at done notYet
        rw [same] at done
        exact absurd done notYet

/-- Where a run with a forwarding courier has closed the queues, there was a moment in which
the courier had read everything; it reads nothing after that. -/
theorem found_empty (schedule : List Move) {emitted : List Event} {fanout : Fanout}
    (custody : Custody emitted fanout.errand fanout.delivery)
    (apart : fanout.delivery.reports.isSome = true) (notYet : ¬fanout.delivery.isDone)
    (done : (fanout.moves schedule).delivery.isDone)
    (given : (fanout.moves schedule).errand = some .forward) :
    ∃ count ≤ schedule.length,
      (fanout.moves (schedule.take count)).delivery.isDrained
        ∧ (fanout.moves schedule).delivery.carried
          = (fanout.moves (schedule.take count)).delivery.feed.published := by
  induction schedule generalizing emitted fanout with
  | nil => exact absurd done notYet
  | cons first later inductionHypothesis =>
      have next := custody_move custody first
      by_cases already : (fanout.move first).delivery.isDone
      · -- The queues were closed in the first move, so its courier forwards.
        have forwards : (fanout.move first).errand = some .forward := by
          cases errand : (fanout.move first).errand with
          | none =>
              have resting := resting_of_stage (errand ▸ next.within)
              simp [Delivery.isDone, resting] at already
          | some errand => exact (errand_moves later next errand).symm.trans given
        have drained := drained_move custody apart notYet first already forwards
        obtain ⟨position, published⟩ := away_moves later (.inl already)
        refine ⟨1, by simp, drained, ?_⟩
        show ((fanout.move first).moves later).delivery.carried = _
        rw [Delivery.carried_of_longer next.accounts.position position published]
        exact List.take_of_length_le drained.1
      · obtain ⟨count, within, drained, carried⟩ := inductionHypothesis next
          ((fanout.move_apart first).trans apart) already done given
        exact ⟨count + 1, Nat.succ_le_succ within, drained, carried⟩

/-! ## The whole account -/

theorem created {profiles : List Profile} {reportCapacity feedCapacity : Nat} {start : Fanout}
    (created : create? profiles reportCapacity feedCapacity false = some start) :
    Custody [] start.errand start.delivery ∧ start.delivery.IsFresh profiles
      ∧ start.delivery.reports.isSome = true ∧ start.delivery.courier = .resting := by
  unfold create? at created
  split at created
  case isFalse => cases created
  case isTrue =>
    obtain ⟨reports, -, created⟩ := Option.bind_eq_some_iff.mp created
    obtain ⟨feed, opened, created⟩ := Option.bind_eq_some_iff.mp created
    cases created
    have unpublished := Bus.published_of_create? opened
    let delivery : Delivery :=
      { feed, reports := some reports, lanes := profiles.map fun profile => { profile } }
    have fresh : delivery.IsFresh profiles := ⟨rfl, unpublished, rfl, nofun⟩
    exact ⟨⟨fresh.accounts, rfl, fun _ => rfl⟩, fresh, rfl, rfl⟩

/-- Whatever profiles, capacities and behaviour the subscribers have, and whatever happens
in whatever order: at every moment, for every subscriber, the events that the owner emitted
and those that the courier has read or was told to have missed are those the subscriber
missed, has handled, has in hand and has in its queue, apart from what went down with a
destroyed task; the latter three stand in the order of publication.

When the delivery has returned, nothing is in hand or in a queue.  After a shutdown the
events accounted for are those emitted.  After forwarding they are those and everything
published on the feed, from the beginning until a moment in which the courier had been told
to end, or the feed was abandoned, and had read all of it. -/
theorem every_event_is_accounted_for {profiles : List Profile}
    {reportCapacity feedCapacity : Nat} {start : Fanout}
    (created : create? profiles reportCapacity feedCapacity false = some start)
    (schedule : List Move) :
    let emitted := start.emitted schedule
    let reached := start.moves schedule
    let lanes := reached.delivery.lanes
    lanes.map Lane.profile = profiles
      ∧ reached.delivery.position.position ≤ reached.delivery.feed.published.length
      ∧ (∀ lane ∈ lanes, ∃ missed discarded,
        lane.dropped = min missed Lane.largestDropped
        ∧ missed + lane.handled.length + lane.inHand.toList.length + lane.queue.length + discarded
          = emitted.length + reached.delivery.position.position
        ∧ (lane.handled ++ lane.inHand.toList ++ lane.queue).Sublist
          (emitted ++ reached.delivery.carried)
        ∧ (Move.act .dropTasks ∉ schedule → discarded = 0))
      ∧ (reached.delivery.courier = .finished →
        (∀ lane ∈ lanes, lane.inHand = none ∧ lane.queue = [])
        ∧ (reached.errand = some .shutdown ∧ reached.delivery.carried = []
          ∨ reached.errand = some .forward ∧ ∃ count ≤ schedule.length,
            (start.moves (schedule.take count)).delivery.isDrained
            ∧ reached.delivery.carried
              = (start.moves (schedule.take count)).delivery.feed.published)) := by
  obtain ⟨custody, fresh, apart, resting⟩ := Fanout.created created
  obtain ⟨kept, profilesKept, follows⟩ := custody_moves schedule custody
  rw [List.nil_append] at kept
  refine ⟨?_, kept.accounts.position, fun lane member => ?_, fun finished => ⟨?_, ?_⟩⟩
  · exact profilesKept.trans fresh.profiles
  · obtain ⟨missed, discarded, account⟩ := kept.accounts.lanes lane member
    have balance := account.balance
    rw [Lane.pending, List.length_append, List.length_append, kept.accounts.length_carried]
      at balance
    refine ⟨missed, discarded, account.counter, by omega, ?_, fun undropped => account.kept ?_⟩
    · rw [List.append_assoc]
      exact account.order
    · obtain ⟨earlier, present, course⟩ := (follows undropped).lane member
      rw [fresh.lanes] at present
      obtain ⟨profile, -, rfl⟩ := List.mem_map.mp present
      exact course.kept (by simp)
  · exact fun lane member => kept.accounts.emptied finished member
  · have given := kept.within
    rw [finished] at given
    obtain ⟨errand, given⟩ := Option.isSome_iff_exists.mp given
    cases errand with
    | shutdown =>
        refine .inl ⟨given, ?_⟩
        rw [Delivery.carried, kept.unread (by simp [given])]
        exact List.take_zero
    | forward =>
        have notYet : ¬start.delivery.isDone := by simp [Delivery.isDone, resting]
        exact .inr ⟨given, found_empty schedule custody apart notYet (.inr finished) given⟩

/-- Five events are published for a forwarding courier that is overtaken by three of them;
it is told to end and everything comes to rest. -/
def overtakenRun : List Move :=
  [.act (.publish (Event.plain .propStored) 5), .act (.give .forward), .read 2,
    .act .tellEnd, .act .settle]

theorem overtaken_run_is_accounted_for :
    ∃ start, create? [{ name := "recorder" }] 8 2 false = some start
      ∧ (start.moves overtakenRun).delivery.lanes.map (fun lane =>
          (lane.dropped, lane.handled.length)) = [(3, 2)]
      ∧ (start.moves overtakenRun).errand = some .forward
      ∧ ∃ count ≤ overtakenRun.length,
        (start.moves (overtakenRun.take count)).delivery.isDrained
          ∧ (start.moves overtakenRun).delivery.carried
            = (start.moves (overtakenRun.take count)).delivery.feed.published := by
  refine ⟨_, rfl, by decide +kernel, by decide +kernel, ?_⟩
  obtain ⟨-, -, -, returned⟩ := every_event_is_accounted_for
    (show create? [{ name := "recorder" }] 8 2 false = some _ from rfl) overtakenRun
  obtain ⟨-, ⟨shutdown, -⟩ | ⟨-, found⟩⟩ := returned (by decide +kernel)
  · exact absurd shutdown (by decide +kernel)
  · exact found

end Fanout

end BoundedScene
