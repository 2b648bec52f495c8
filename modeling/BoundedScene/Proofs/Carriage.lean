import BoundedScene.Proofs.Lanes
import Mathlib.Data.List.Forall2
import Mathlib.Logic.Relation

/-!
Contract: what the courier and the workers of a delivery do, one small step at a time.

Owns:
- `Delivery.Read`, one reading of the courier, and `Delivery.Change`, a small step;
- the small steps that the turns of a delivery are made of;
- `Delivery.Accounts`, the balance of every lane against what the courier read or was
  told to have missed.

Main statement: `Delivery.Accounts.change`.

Does not own: who hands events to the delivery, and when the tasks get their turns.
-/

namespace BoundedScene

/-! ## What a receiver obtains -/

namespace Bus

theorem published_of_create? {capacity : Nat} {bus : Bus}
    (created : Bus.create? capacity = some bus) : bus.published = [] := by
  unfold Bus.create? at created
  split at created <;> cases created
  rfl

/-- What a receiver obtains next: an event, a gap, or the news that it has read
everything. -/
inductive Obtains (bus : Bus) (closed : Bool) (receiver : Receiver) :
    Receipt → Receiver → Prop where
  | event {event : Event} (next : bus.published[receiver.position]? = some event) :
      Obtains bus closed receiver (.event event) ⟨receiver.position + 1⟩
  | gap {missed : Nat} (within : receiver.position + missed ≤ bus.published.length) :
      Obtains bus closed receiver (.lagged missed) ⟨receiver.position + missed⟩
  | nothing (behind : bus.published.length ≤ receiver.position) :
      Obtains bus closed receiver (if closed then .closed else .empty) receiver

theorem receive_obtains (bus : Bus) (closed : Bool) (receiver : Receiver) :
    Obtains bus closed receiver (bus.receive closed receiver).1
      (bus.receive closed receiver).2 := by
  unfold receive
  split
  case isTrue overtaken =>
    unfold backlog at overtaken ⊢
    have position : bus.published.length - bus.slots
        = receiver.position + (bus.published.length - receiver.position - bus.slots) := by
      omega
    rw [position]
    exact .gap (by omega)
  case isFalse =>
    split
    case h_1 event next => exact .event next
    case h_2 beyond => exact .nothing (List.getElem?_eq_none_iff.mp beyond)

end Bus

/-! ## The course of a lane -/

/-- A small step of a lane whose task is not destroyed. -/
inductive Lane.Change (before : Lane) : Lane → Prop where
  | offered (event : Event) : Change before (before.offer event).2
  | missed (count : Nat) : Change before (before.miss count)
  | worked : Change before before.work.1
  | permitted (count : Nat) : Change before (before.permit count)
  | closed : Change before before.close

/-- Any number of small steps of a lane. -/
abbrev Lane.Course : Lane → Lane → Prop :=
  Relation.ReflTransGen Lane.Change

namespace Lane

variable {before after : Lane}

theorem Change.profile (change : Change before after) : after.profile = before.profile := by
  cases change with
  | offered event => unfold offer; split <;> [skip; split] <;> rfl
  | missed => rfl
  | worked => unfold work; split <;> rfl
  | permitted => unfold permit; split <;> rfl
  | closed => rfl

/-- Only the destruction of its task makes a worker lost. -/
theorem Change.kept (change : Change before after) (alive : before.worker ≠ .lost) :
    after.worker ≠ .lost := by
  cases change with
  | offered event => unfold offer; split <;> [skip; split] <;> exact alive
  | missed => exact alive
  | worked =>
      unfold work
      split
      · exact alive
      · dsimp only
        split <;> decide
  | permitted => unfold permit; split <;> exact alive
  | closed => exact alive

/-- A worker that is gone does not come back. -/
theorem Change.gone (change : Change before after) (gone : before.isLive = false) :
    after.isLive = false := by
  cases change with
  | offered event => unfold offer; split <;> [skip; split] <;> exact gone
  | missed => exact gone
  | worked =>
      unfold work
      split
      · exact gone
      · simp_all
  | permitted => unfold permit; split <;> exact gone
  | closed => exact gone

theorem Course.profile (course : Course before after) : after.profile = before.profile := by
  induction course with
  | refl => rfl
  | tail _ last inductionHypothesis => exact last.profile.trans inductionHypothesis

theorem Course.kept (course : Course before after) (alive : before.worker ≠ .lost) :
    after.worker ≠ .lost := by
  induction course with
  | refl => exact alive
  | tail _ last inductionHypothesis => exact last.kept inductionHypothesis

theorem Course.gone (course : Course before after) (gone : before.isLive = false) :
    after.isLive = false := by
  induction course with
  | refl => exact gone
  | tail _ last inductionHypothesis => exact last.gone inductionHypothesis

end Lane

namespace Delivery

/-! ## Reading -/

/-- One reading of the courier: it hands on the next event, or it was overtaken and
counts the gap for everybody. -/
inductive Read (before : Delivery) : Delivery → Prop where
  | hands {event : Event}
      (next : before.feed.published[before.position.position]? = some event) :
      Read before
        (({ before with position := ⟨before.position.position + 1⟩ } : Delivery).emit event)
  | skips {missed : Nat}
      (within : before.position.position + missed ≤ before.feed.published.length) :
      Read before
        (({ before with position := ⟨before.position.position + missed⟩ } : Delivery).miss missed)

/-- The courier reads one event or gap after the other.  When it stops because it
found nothing, it has read everything. -/
theorem carry_reads (reads : Nat) (delivery : Delivery) :
    ∃ reached, Relation.ReflTransGen Read delivery reached
      ∧ ((delivery.carry reads = (false, reached.wake .courier))
        ∨ (delivery.carry reads = (true, reached)
          ∧ reached.feed.published.length ≤ reached.position.position)) := by
  induction reads generalizing delivery with
  | zero => exact ⟨delivery, .refl, .inl rfl⟩
  | succ reads inductionHypothesis =>
      have obtained := delivery.feed.receive_obtains delivery.feedClosed delivery.position
      unfold carry
      generalize delivery.feed.receive delivery.feedClosed delivery.position = result at obtained
      obtain ⟨receipt, position⟩ := result
      cases obtained with
      | event next =>
          obtain ⟨reached, later, outcome⟩ := inductionHypothesis _
          exact ⟨reached, .head (.hands next) later, outcome⟩
      | gap within =>
          obtain ⟨reached, later, outcome⟩ := inductionHypothesis _
          exact ⟨reached, .head (.skips within) later, outcome⟩
      | nothing behind =>
          refine ⟨delivery, .refl, .inr ⟨?_, behind⟩⟩
          cases delivery.feedClosed <;> rfl

/-- What the courier has read or was told to have missed, in the order of
publication. -/
def carried (delivery : Delivery) : List Event :=
  delivery.feed.published.take delivery.position.position

/-- The courier reads a number of times and gives its turn away. -/
def readOn (reads : Nat) (delivery : Delivery) : Delivery :=
  if delivery.isForwarding then
    { (({ delivery with courier := .carrying }).carry reads).2 with courier := .forwarding }
  else delivery

/-! ## Small steps -/

/-- The courier is at the feed. -/
def isAtFeed (delivery : Delivery) : Prop :=
  delivery.courier = .forwarding ∨ delivery.courier = .carrying

/-- The courier has closed the queues. -/
def isDone (delivery : Delivery) : Prop :=
  delivery.courier = .joining ∨ delivery.courier = .finished

/-- The courier has left the feed for good. -/
def isAway (delivery : Delivery) : Prop :=
  delivery.isDone ∨ delivery.courier = .lost

/-- The courier has read everything and nothing more is to be waited for. -/
def isDrained (delivery : Delivery) : Prop :=
  delivery.feed.published.length ≤ delivery.position.position
    ∧ (delivery.ended = true ∨ delivery.feedAbandoned = true)

/-- A small step of a delivery whose tasks are not destroyed. -/
inductive Change (before : Delivery) : Delivery → Prop where
  | publishes (event : Event) : Change before (before.publish event)
  | reads {after : Delivery} (atFeed : before.isAtFeed) (read : Read before after) :
      Change before after
  | works (index : Nat) : Change before (resumeLane index before)
  | permits (index count : Nat) : Change before (before.permit index count)
  | closes : Change before before.closeQueues
  | joins (ceased : before.courier = .forwarding ∧ before.isDrained
        ∨ before.courier = .closing ∨ before.courier = .joining) :
      Change before before.join
  | turns {courier : Courier} (atFeed : before.isAtFeed)
      (still : courier = .forwarding ∨ courier = .carrying) :
      Change before { before with courier }
  | wakes (woken : List DeliveryTask) : Change before { before with woken }
  | ends : Change before { before with ended := true }
  | abandons : Change before { before with feedAbandoned := true }

/-- Any number of small steps. -/
abbrev Changes : Delivery → Delivery → Prop :=
  Relation.ReflTransGen Change

theorem wakeIf_changes (delivery : Delivery) (condition : Bool) (task : DeliveryTask) :
    Changes delivery (delivery.wakeIf condition task) := by
  unfold wakeIf
  split
  · exact .single (.wakes _)
  · exact .refl

theorem tellEnd_changes (delivery : Delivery) : Changes delivery delivery.tellEnd :=
  .head .ends (wakeIf_changes ..)

theorem abandonFeed_changes (delivery : Delivery) : Changes delivery delivery.abandonFeed :=
  .head .abandons (wakeIf_changes ..)

theorem Read.reports {before after : Delivery} (read : Read before after) :
    ∃ position, before.position.position ≤ position
      ∧ position ≤ before.feed.published.length
      ∧ Reports { before with position := ⟨position⟩ } after := by
  cases read with
  | hands next =>
      exact ⟨_, Nat.le_succ _, (List.getElem?_eq_some_iff.mp next).1, emit_reports ..⟩
  | skips within => exact ⟨_, Nat.le_add_right _ _, within, miss_reports ..⟩

/-- Readings leave the courier where it is. -/
theorem reads_changes {before after : Delivery} (carrying : before.courier = .carrying)
    (reads : Relation.ReflTransGen Read before after) :
    Changes before after ∧ after.courier = .carrying := by
  induction reads with
  | refl => exact ⟨.refl, carrying⟩
  | tail _ last inductionHypothesis =>
      obtain ⟨soFar, still⟩ := inductionHypothesis
      obtain ⟨position, -, -, reported⟩ := last.reports
      exact ⟨soFar.tail (.reads (.inr still) last), reported.courier.trans still⟩

theorem carry_changes (reads : Nat) {delivery : Delivery}
    (forwarding : delivery.courier = .forwarding) :
    Changes delivery
      { (({ delivery with courier := .carrying }).carry reads).2 with courier := .forwarding } := by
  obtain ⟨reached, read, outcome⟩ := ({ delivery with courier := .carrying }).carry_reads reads
  obtain ⟨changes, still⟩ := reads_changes rfl read
  have begun : Changes delivery reached :=
    .head (.turns (.inl forwarding) (.inr rfl)) changes
  rcases outcome with cut | ⟨whole, -⟩
  · rw [cut]
    exact (begun.tail (.wakes _)).tail (.turns (.inr still) (.inl rfl))
  · rw [whole]
    exact begun.tail (.turns (.inr still) (.inl rfl))

theorem readOn_changes (reads : Nat) (delivery : Delivery) :
    Changes delivery (delivery.readOn reads) := by
  unfold readOn
  split
  case isTrue forwarding => exact carry_changes reads (by simpa [isForwarding] using forwarding)
  case isFalse => exact .refl

/-- The courier closes the queues and waits for the workers. -/
theorem closeQueues_join_changes {delivery : Delivery}
    (ceased : delivery.courier = .forwarding ∧ delivery.isDrained ∨ delivery.courier = .closing) :
    Changes delivery delivery.closeQueues.join :=
  (Relation.ReflTransGen.single .closes).tail
    (.joins (ceased.imp (fun drained => drained) .inl))

/-- A courier that stops because it found nothing more and is not to wait for more. -/
theorem carry_drained (reads : Nat) (delivery : Delivery)
    (ceased : ((delivery.carry reads).1
      && ((delivery.carry reads).2.ended || (delivery.carry reads).2.feedClosed)) = true) :
    (delivery.carry reads).2.isDrained := by
  obtain ⟨reached, -, outcome⟩ := delivery.carry_reads reads
  rcases outcome with cut | ⟨whole, behind⟩
  · simp [cut] at ceased
  · rw [whole] at ceased ⊢
    refine ⟨behind, ?_⟩
    simp only [feedClosed, Bool.true_and, Bool.or_eq_true, Bool.and_eq_true] at ceased
    exact ceased.imp_right And.left

/-- A courier that has read everything closes the queues if it is to wait for nothing more. -/
theorem resumeCourier_forwarding {delivery reached : Delivery}
    (forwarding : delivery.courier = .forwarding)
    (carried : ({ delivery with courier := .carrying } : Delivery).carry delivery.reads
      = (true, reached)) :
    delivery.resumeCourier
      = if reached.ended || reached.feedClosed then
          ({ reached with courier := .forwarding } : Delivery).closeQueues.join
        else { reached with courier := .forwarding } := by
  simp only [resumeCourier, forwarding, carried, Bool.true_and]
  rfl

theorem resumeCourier_changes (delivery : Delivery) :
    Changes delivery delivery.resumeCourier := by
  unfold resumeCourier
  split
  case h_1 forwarding =>
    have carried := delivery.carry_changes delivery.reads forwarding
    dsimp only
    split
    case isFalse => exact carried
    case isTrue ceased =>
      exact carried.trans (closeQueues_join_changes (.inl ⟨rfl, carry_drained _ _ ceased⟩))
  case h_2 closing => exact closeQueues_join_changes (.inr closing)
  case h_3 joining => exact .single (.joins (.inr (.inr joining)))
  case h_4 => exact .refl

/-- Every turn of a delivery is made of small steps. -/
theorem resume_changes (task : DeliveryTask) (delivery : Delivery) :
    Changes delivery (resume task delivery) := by
  cases task with
  | lane index => exact .single (.works index)
  | courier => exact delivery.resumeCourier_changes

/-! ## What a small step does to the lanes -/

theorem lanes_resumeLane (index : Nat) (delivery : Delivery) :
    (resumeLane index delivery).lanes
      = delivery.lanes.modify index fun lane => lane.work.1 := by
  unfold resumeLane
  split
  case h_1 missing => exact (modify_missing _ missing).symm
  case h_2 lane found =>
    dsimp only
    rw [lanes_wakeIf, ← set_changed (fun lane => lane.work.1) delivery found]
    exact List.foldlRecOn
      (motive := fun reached => reached.lanes = (delivery.setLane index lane.work.1).lanes)
      _ report rfl fun reached same event _ => (lanes_report reached event).trans same

theorem resumeLane_reports (index : Nat) (delivery : Delivery) :
    Reports delivery (resumeLane index delivery) := by
  unfold resumeLane
  split
  · exact .refl delivery
  case h_2 lane found =>
    dsimp only
    refine Reports.trans ?_ (wakeIf_reports ..)
    exact List.foldlRecOn (motive := Reports delivery) _ report (setLane_reports ..)
      fun reached soFar event _ => soFar.trans (report_reports reached event)

theorem lanes_permit (delivery : Delivery) (index count : Nat) :
    (delivery.permit index count).lanes
      = delivery.lanes.modify index fun lane => lane.permit count := by
  unfold permit
  split
  case h_1 missing => exact (modify_missing _ missing).symm
  case h_2 lane found =>
    rw [lanes_wakeIf]
    exact set_changed (fun lane => lane.permit count) delivery found

theorem permit_reports (delivery : Delivery) (index count : Nat) :
    Reports delivery (delivery.permit index count) := by
  unfold permit
  split
  · exact .refl delivery
  · exact (setLane_reports ..).trans (wakeIf_reports ..)

theorem publish_lanes (delivery : Delivery) (event : Event) :
    (delivery.publish event).lanes = delivery.lanes :=
  lanes_wakeIf _ _ _

theorem Read.lanes {before after : Delivery} (read : Read before after) :
    (∃ event, before.feed.published[before.position.position]? = some event
        ∧ after.lanes = before.lanes.map fun lane => (lane.offer event).2)
      ∨ ∃ missed, after.lanes = before.lanes.map fun lane => lane.miss missed := by
  cases read with
  | hands next => exact .inl ⟨_, next, lanes_emit ..⟩
  | skips within => exact .inr ⟨_, lanes_miss ..⟩

theorem forall₂_modify {α : Type} {relation : α → α → Prop} {change : α → α}
    (same : ∀ item, relation item item) (related : ∀ item, relation item (change item))
    (items : List α) (index : Nat) :
    List.Forall₂ relation items (items.modify index change) := by
  induction items generalizing index with
  | nil => simp
  | cons first rest inductionHypothesis =>
      cases index with
      | zero => exact .cons (related first) (List.forall₂_same.mpr fun item _ => same item)
      | succ index => exact .cons (same first) (inductionHypothesis index)

theorem forall₂_trans {α : Type} {relation : α → α → Prop}
    (compose : ∀ {first second third}, relation first second → relation second third →
      relation first third) {first second third : List α}
    (early : List.Forall₂ relation first second) (late : List.Forall₂ relation second third) :
    List.Forall₂ relation first third := by
  induction early generalizing third with
  | nil => exact late
  | cons head _ inductionHypothesis =>
      cases late with
      | cons next rest => exact .cons (compose head next) (inductionHypothesis rest)

theorem mem_of_forall₂ {α : Type} {relation : α → α → Prop} {first second : List α}
    (related : List.Forall₂ relation first second) {item : α} (member : item ∈ second) :
    ∃ earlier ∈ first, relation earlier item := by
  induction related with
  | nil => cases member
  | cons head _ inductionHypothesis =>
      rcases List.mem_cons.mp member with rfl | later
      · exact ⟨_, List.mem_cons_self .., head⟩
      · obtain ⟨earlier, before, course⟩ := inductionHypothesis later
        exact ⟨earlier, List.mem_cons_of_mem _ before, course⟩

/-- Every lane went on some steps on its course. -/
def Follows (before after : Delivery) : Prop :=
  List.Forall₂ Lane.Course before.lanes after.lanes

namespace Follows

variable {before middle after : Delivery}

theorem refl (delivery : Delivery) : Follows delivery delivery :=
  List.forall₂_same.mpr fun _ _ => .refl

theorem trans (early : Follows before middle) (late : Follows middle after) :
    Follows before after :=
  forall₂_trans (fun head next => head.trans next) early late

theorem lane (follows : Follows before after) {lane : Lane} (member : lane ∈ after.lanes) :
    ∃ earlier ∈ before.lanes, Lane.Course earlier lane :=
  mem_of_forall₂ follows member

theorem profiles (follows : Follows before after) :
    after.lanes.map Lane.profile = before.lanes.map Lane.profile := by
  have same : List.Forall₂ (· = ·) (before.lanes.map Lane.profile)
      (after.lanes.map Lane.profile) := by
    rw [List.forall₂_map_left_iff, List.forall₂_map_right_iff]
    exact List.Forall₂.imp (fun _ _ course => course.profile.symm) follows
  rw [List.forall₂_eq_eq_eq] at same
  exact same.symm

theorem of_map {change : Lane → Lane} (same : after.lanes = before.lanes.map change)
    (related : ∀ lane : Lane, Lane.Change lane (change lane)) : Follows before after := by
  unfold Follows
  rw [same, List.forall₂_map_right_iff]
  exact List.forall₂_same.mpr fun lane _ => .single (related lane)

theorem of_modify {change : Lane → Lane} {index : Nat}
    (same : after.lanes = before.lanes.modify index change)
    (related : ∀ lane : Lane, Lane.Change lane (change lane)) : Follows before after := by
  unfold Follows
  rw [same]
  exact forall₂_modify (fun _ => .refl) (fun lane => .single (related lane)) _ _

end Follows

theorem Change.follows {before after : Delivery} (change : Change before after) :
    Follows before after := by
  cases change with
  | publishes event =>
      unfold Follows
      rw [publish_lanes]
      exact Follows.refl before
  | reads _ read =>
      rcases read.lanes with ⟨event, -, same⟩ | ⟨missed, same⟩
      · exact .of_map same fun _ => .offered event
      · exact .of_map same fun _ => .missed missed
  | works index => exact .of_modify (lanes_resumeLane index before) fun _ => .worked
  | permits index count =>
      exact .of_modify (lanes_permit before index count) fun _ => .permitted count
  | closes => exact .of_map rfl fun _ => .closed
  | joins => exact .refl before
  | turns => exact .refl before
  | wakes => exact .refl before
  | ends => exact .refl before
  | abandons => exact .refl before

theorem Changes.follows {before after : Delivery} (changes : Changes before after) :
    Follows before after := by
  induction changes with
  | refl => exact .refl before
  | tail _ last inductionHypothesis => exact inductionHypothesis.trans last.follows

/-! ## The balance of all lanes -/

/-- Every event that the courier read or was told to have missed, after those that were
emitted directly, is accounted for by every lane. -/
structure Accounts (emitted : List Event) (delivery : Delivery) : Prop where
  lanes : ∀ lane ∈ delivery.lanes, lane.Accounted (emitted ++ delivery.carried)
  position : delivery.position.position ≤ delivery.feed.published.length
  joined : delivery.courier = .finished → ∀ lane ∈ delivery.lanes, lane.isLive = false

variable {before after : Delivery} {emitted : List Event}

theorem Accounts.length_carried {delivery : Delivery} (accounts : Accounts emitted delivery) :
    delivery.carried.length = delivery.position.position :=
  List.length_take_of_le accounts.position

/-- A courier that has finished leaves nothing on its way. -/
theorem Accounts.emptied {delivery : Delivery} (accounts : Accounts emitted delivery)
    (finished : delivery.courier = .finished) {lane : Lane} (member : lane ∈ delivery.lanes) :
    lane.inHand = none ∧ lane.queue = [] := by
  obtain ⟨missed, discarded, account⟩ := accounts.lanes lane member
  have nothing := account.idle (accounts.joined finished lane member)
  obtain ⟨inHand, queue⟩ := List.append_eq_nil_iff.mp nothing
  exact ⟨by simpa using inHand, queue⟩

/-- A delivery to subscribers with given profiles on a feed on which nothing has been
published. -/
structure IsFresh (profiles : List Profile) (delivery : Delivery) : Prop where
  lanes : delivery.lanes = profiles.map fun profile => { profile }
  published : delivery.feed.published = []
  position : delivery.position.position = 0
  courier : delivery.courier = .finished → profiles = []

theorem IsFresh.accounts {profiles : List Profile} {delivery : Delivery}
    (fresh : delivery.IsFresh profiles) : delivery.Accounts [] where
  lanes lane member := by
    rw [fresh.lanes] at member
    obtain ⟨profile, -, rfl⟩ := List.mem_map.mp member
    rw [carried, fresh.published, List.take_nil]
    exact Lane.accounted_fresh profile
  position := by
    rw [fresh.position]
    exact Nat.zero_le _
  joined finished lane member := by
    rw [fresh.lanes, fresh.courier finished] at member
    cases member

theorem IsFresh.profiles {profiles : List Profile} {delivery : Delivery}
    (fresh : delivery.IsFresh profiles) : delivery.lanes.map Lane.profile = profiles := by
  rw [fresh.lanes, List.map_map]
  exact List.map_id profiles

theorem carried_of_longer (bounded : before.position.position ≤ before.feed.published.length)
    (position : after.position = before.position)
    (published : before.feed.published <+: after.feed.published) :
    after.carried = before.carried := by
  obtain ⟨more, whole⟩ := published
  unfold carried
  rw [position, ← whole, List.take_append_of_le_length bounded]

theorem mem_of_mem_modify {α : Type} {change : α → α} {items : List α} {index : Nat} {item : α}
    (member : item ∈ items.modify index change) :
    ∃ earlier ∈ items, item = earlier ∨ item = change earlier := by
  obtain ⟨position, found⟩ := List.mem_iff_getElem?.mp member
  rw [List.getElem?_modify] at found
  obtain ⟨earlier, present, rfl⟩ := Option.map_eq_some_iff.mp found
  refine ⟨earlier, List.mem_of_getElem? present, ?_⟩
  split
  · exact .inr rfl
  · exact .inl rfl

/-- The balance is kept by a step without reading that keeps it for every lane. -/
theorem Accounts.kept (accounts : before.Accounts emitted) (follows : Follows before after)
    (position : after.position = before.position)
    (published : before.feed.published <+: after.feed.published)
    (courier : after.courier = .finished → before.courier = .finished)
    (lanes : ∀ lane ∈ after.lanes, ∃ earlier ∈ before.lanes,
      ∀ offered, earlier.Accounted offered → lane.Accounted offered) :
    after.Accounts emitted where
  lanes lane member := by
    obtain ⟨earlier, present, keeps⟩ := lanes lane member
    rw [carried_of_longer accounts.position position published]
    exact keeps _ (accounts.lanes earlier present)
  position := by
    rw [position]
    exact Nat.le_trans accounts.position published.length_le
  joined finished lane member := by
    obtain ⟨earlier, present, course⟩ := follows.lane member
    exact course.gone (accounts.joined (courier finished) earlier present)

/-- What the courier has read grows by the event that it hands to every lane, or by the
gap that it counts for every lane. -/
theorem Accounts.read_lane (accounts : before.Accounts emitted) (read : Read before after)
    (lane : Lane) (member : lane ∈ after.lanes) :
    lane.Accounted (emitted ++ after.carried) := by
  cases read with
  | @hands event next =>
      let moved : Delivery := { before with position := ⟨before.position.position + 1⟩ }
      have within : moved.position.position ≤ moved.feed.published.length :=
        (List.getElem?_eq_some_iff.mp next).1
      have reported := emit_reports moved event
      rw [lanes_emit] at member
      obtain ⟨earlier, present, rfl⟩ := List.mem_map.mp member
      have grown : moved.carried = before.carried ++ [event] := by
        show before.feed.published.take (before.position.position + 1) = _
        rw [List.take_add_one, next]
        rfl
      rw [carried_of_longer within reported.position reported.published, grown,
        ← List.append_assoc]
      exact (accounts.lanes earlier present).offer event
  | @skips missed within =>
      let moved : Delivery := { before with position := ⟨before.position.position + missed⟩ }
      have bounded : moved.position.position ≤ moved.feed.published.length := within
      have reported := miss_reports moved missed
      rw [lanes_miss] at member
      obtain ⟨earlier, present, rfl⟩ := List.mem_map.mp member
      let gap := (before.feed.published.drop before.position.position).take missed
      have size : gap.length = missed := by
        rw [List.length_take, List.length_drop]
        omega
      have grown : moved.carried = before.carried ++ gap := List.take_add
      rw [carried_of_longer bounded reported.position reported.published, grown,
        ← List.append_assoc]
      have counted := (accounts.lanes earlier present).miss gap
      rwa [size] at counted

theorem Accounts.read (accounts : before.Accounts emitted) (atFeed : before.isAtFeed)
    (read : Read before after) : after.Accounts emitted := by
  have change : Change before after := .reads atFeed read
  obtain ⟨position, onwards, bounded, reported⟩ := read.reports
  have unfinished : after.courier ≠ .finished := by
    rw [reported.courier]
    rcases atFeed with forwarding | carrying
    · simp [forwarding]
    · simp [carrying]
  refine ⟨fun lane member => ?_, ?_, fun finished => absurd finished unfinished⟩
  · exact accounts.read_lane read lane member
  · rw [reported.position]
    exact Nat.le_trans bounded reported.published.length_le

/-- Nothing is ever taken off the feed, and reports go where they always went. -/
theorem Change.buses (change : Change before after) :
    before.feed.published <+: after.feed.published
      ∧ after.reports.isSome = before.reports.isSome := by
  cases change with
  | publishes event =>
      have woken := wakeIf_reports { before with feed := before.feed.publish event }
        before.isForwarding .courier
      exact ⟨(List.prefix_append _ _).trans woken.published, woken.apart⟩
  | reads _ read =>
      obtain ⟨_, -, -, reported⟩ := read.reports
      exact ⟨reported.published, reported.apart⟩
  | works index =>
      have reported := resumeLane_reports index before
      exact ⟨reported.published, reported.apart⟩
  | permits index count =>
      have reported := permit_reports before index count
      exact ⟨reported.published, reported.apart⟩
  | closes => exact ⟨List.prefix_rfl, rfl⟩
  | joins => exact ⟨List.prefix_rfl, rfl⟩
  | turns => exact ⟨List.prefix_rfl, rfl⟩
  | wakes => exact ⟨List.prefix_rfl, rfl⟩
  | ends => exact ⟨List.prefix_rfl, rfl⟩
  | abandons => exact ⟨List.prefix_rfl, rfl⟩

theorem Changes.buses (changes : Changes before after) :
    before.feed.published <+: after.feed.published
      ∧ after.reports.isSome = before.reports.isSome := by
  induction changes with
  | refl => exact ⟨List.prefix_rfl, rfl⟩
  | tail _ last inductionHypothesis =>
      obtain ⟨published, apart⟩ := inductionHypothesis
      exact ⟨published.trans last.buses.1, last.buses.2.trans apart⟩

theorem Accounts.change (accounts : before.Accounts emitted) (change : Change before after) :
    after.Accounts emitted := by
  have untouched : ∀ lane ∈ before.lanes, ∃ earlier ∈ before.lanes,
      ∀ offered, earlier.Accounted offered → lane.Accounted offered :=
    fun lane member => ⟨lane, member, fun _ account => account⟩
  have follows := change.follows
  have published := change.buses.1
  cases change with
  | publishes event =>
      have woken := wakeIf_reports { before with feed := before.feed.publish event }
        before.isForwarding .courier
      refine accounts.kept follows woken.position published
        (fun finished => woken.courier.symm.trans finished) ?_
      rw [publish_lanes]
      exact untouched
  | reads atFeed read => exact accounts.read atFeed read
  | works index =>
      have reported := resumeLane_reports index before
      refine accounts.kept follows reported.position published
        (fun finished => reported.courier ▸ finished) ?_
      rw [lanes_resumeLane]
      intro lane member
      obtain ⟨earlier, present, rfl | rfl⟩ := mem_of_mem_modify member
      · exact untouched lane present
      · exact ⟨earlier, present, fun _ account => account.work⟩
  | permits index count =>
      have reported := permit_reports before index count
      refine accounts.kept follows reported.position published
        (fun finished => reported.courier ▸ finished) ?_
      rw [lanes_permit]
      intro lane member
      obtain ⟨earlier, present, rfl | rfl⟩ := mem_of_mem_modify member
      · exact untouched lane present
      · exact ⟨earlier, present, fun _ account => account.permit count⟩
  | closes =>
      refine accounts.kept follows rfl published id fun lane member => ?_
      obtain ⟨earlier, present, rfl⟩ := List.mem_map.mp member
      exact ⟨earlier, present, fun _ account => account.close⟩
  | joins ceased =>
      refine ⟨accounts.lanes, accounts.position, fun finished lane member => ?_⟩
      cases gone : before.workersGone with
      | true => simpa using List.all_eq_true.mp gone lane member
      | false => simp [join, gone] at finished
  | turns atFeed still =>
      refine ⟨accounts.lanes, accounts.position, fun finished => ?_⟩
      rcases still with rfl | rfl <;> cases finished
  | wakes woken => exact ⟨accounts.lanes, accounts.position, accounts.joined⟩
  | ends => exact ⟨accounts.lanes, accounts.position, accounts.joined⟩
  | abandons => exact ⟨accounts.lanes, accounts.position, accounts.joined⟩

theorem Accounts.changes (accounts : before.Accounts emitted) (changes : Changes before after) :
    after.Accounts emitted := by
  induction changes with
  | refl => exact accounts
  | tail _ last inductionHypothesis => exact inductionHypothesis.change last

/-- An event that is emitted before the courier reads anything is offered to every lane. -/
theorem Accounts.emit (accounts : before.Accounts emitted)
    (unread : before.position.position = 0) (resting : before.courier = .resting)
    (event : Event) : (before.emit event).Accounts (emitted ++ [event]) := by
  have reported := emit_reports before event
  have nothing : before.carried = [] := by simp [carried, unread]
  refine ⟨fun lane member => ?_, ?_, fun finished => ?_⟩
  · rw [lanes_emit] at member
    obtain ⟨earlier, present, rfl⟩ := List.mem_map.mp member
    have account := accounts.lanes earlier present
    rw [nothing, List.append_nil] at account
    rw [carried_of_longer accounts.position reported.position reported.published, nothing,
      List.append_nil]
    exact account.offer event
  · rw [reported.position, unread]
    exact Nat.zero_le _
  · rw [reported.courier, resting] at finished
    cases finished

/-- What a destroyed task had not handed over is discarded. -/
theorem Accounts.lose (accounts : before.Accounts emitted) : before.lose.Accounts emitted := by
  refine ⟨fun lane member => ?_, accounts.position, fun _ lane member => ?_⟩
  · obtain ⟨earlier, present, rfl⟩ := List.mem_map.mp member
    exact (accounts.lanes earlier present).lose
  · obtain ⟨earlier, -, rfl⟩ := List.mem_map.mp member
    unfold Lane.lose
    cases live : earlier.isLive with
    | true => rfl
    | false => exact live

theorem profiles_lose (delivery : Delivery) :
    delivery.lose.lanes.map Lane.profile = delivery.lanes.map Lane.profile := by
  have same (lane : Lane) : lane.lose.profile = lane.profile := by
    unfold Lane.lose
    split <;> rfl
  show (delivery.lanes.map Lane.lose).map Lane.profile = _
  rw [List.map_map]
  exact List.map_congr_left fun lane _ => same lane

/-! ## After the queues were closed -/

/-- A courier that has left the feed for good reads no more. -/
theorem Change.away (change : Change before after) (away : before.isAway) :
    after.isAway ∧ after.position = before.position := by
  have notAtFeed : ¬before.isAtFeed := by
    rintro (forwarding | carrying)
    · simp [isAway, isDone, forwarding] at away
    · simp [isAway, isDone, carrying] at away
  have stays {courier : Courier} (same : courier = before.courier)
      (moved : after.courier = courier) : after.isAway := by
    unfold isAway isDone
    rw [moved, same]
    exact away
  cases change with
  | publishes event =>
      have woken := wakeIf_reports { before with feed := before.feed.publish event }
        before.isForwarding .courier
      exact ⟨stays rfl woken.courier, woken.position⟩
  | reads atFeed => exact absurd atFeed notAtFeed
  | works index =>
      have reported := resumeLane_reports index before
      exact ⟨stays rfl reported.courier, reported.position⟩
  | permits index count =>
      have reported := permit_reports before index count
      exact ⟨stays rfl reported.courier, reported.position⟩
  | joins ceased =>
      refine ⟨.inl ?_, rfl⟩
      unfold isDone join
      cases before.workersGone with
      | true => exact .inr rfl
      | false => exact .inl rfl
  | turns atFeed => exact absurd atFeed notAtFeed
  | closes => exact ⟨away, rfl⟩
  | wakes => exact ⟨away, rfl⟩
  | ends => exact ⟨away, rfl⟩
  | abandons => exact ⟨away, rfl⟩

theorem Changes.away (changes : Changes before after) (away : before.isAway) :
    after.isAway ∧ after.position = before.position := by
  induction changes with
  | refl => exact ⟨away, rfl⟩
  | tail _ last inductionHypothesis =>
      obtain ⟨still, same⟩ := inductionHypothesis
      obtain ⟨after, again⟩ := last.away still
      exact ⟨after, again.trans same⟩

/-- Whatever was reported is reported as well when the courier is somewhere else. -/
theorem Reports.elsewhere (reports : Reports before after) (position : Receiver)
    (courier : Courier) :
    Reports { before with position, courier } { after with position, courier } :=
  ⟨rfl, rfl, reports.ended, reports.feedAbandoned, reports.apart, reports.slots,
    reports.published, reports.untouched⟩

/-- Nothing is published by readings but reports. -/
theorem reads_frame (reads : Relation.ReflTransGen Read before after) :
    ∃ position, Reports { before with position } after := by
  induction reads with
  | refl => exact ⟨before.position, .refl before⟩
  | @tail middle last _ read inductionHypothesis =>
      obtain ⟨_, soFar⟩ := inductionHypothesis
      obtain ⟨position, -, -, reported⟩ := read.reports
      have courier := soFar.courier
      refine ⟨⟨position⟩, ?_⟩
      have moved := (soFar.elsewhere ⟨position⟩ before.courier).trans
        (show Reports _ { middle with position := ⟨position⟩ } from courier ▸ .refl _)
      exact moved.trans reported

theorem carry_frame (reads : Nat) (delivery : Delivery) :
    ∃ position, Reports { delivery with position } (delivery.carry reads).2 := by
  obtain ⟨reached, read, outcome⟩ := delivery.carry_reads reads
  obtain ⟨position, reported⟩ := reads_frame read
  refine ⟨position, ?_⟩
  rcases outcome with cut | ⟨whole, -⟩
  · rw [cut]
    exact reported.trans (wakeIf_reports reached true .courier)
  · rwa [whole]

/-- Nothing is published in a turn but reports, and the courier alone moves. -/
theorem resume_frame (task : DeliveryTask) (delivery : Delivery) :
    ∃ position courier, Reports { delivery with position, courier } (resume task delivery) := by
  cases task with
  | lane index => exact ⟨_, _, resumeLane_reports index delivery⟩
  | courier =>
      show ∃ position courier, Reports { delivery with position, courier } delivery.resumeCourier
      unfold resumeCourier
      split
      case h_1 =>
        obtain ⟨position, reported⟩ :=
          ({ delivery with courier := .carrying } : Delivery).carry_frame delivery.reads
        dsimp only
        split
        all_goals
          exact ⟨_, _, rfl, rfl, reported.ended, reported.feedAbandoned, reported.apart,
            reported.slots, reported.published, reported.untouched⟩
      case h_2 => exact ⟨_, _, ⟨rfl, rfl, rfl, rfl, rfl, rfl, List.prefix_rfl, fun _ => rfl⟩⟩
      case h_3 => exact ⟨_, _, ⟨rfl, rfl, rfl, rfl, rfl, rfl, List.prefix_rfl, fun _ => rfl⟩⟩
      case h_4 => exact ⟨_, _, .refl delivery⟩

/-- In a turn the courier comes to close the queues only because it was told to or
because it has read everything and nothing more is to be waited for. -/
theorem resume_done (task : DeliveryTask) (delivery : Delivery) :
    (resume task delivery).isDone →
      delivery.isDone ∨ delivery.courier = .closing ∨ (resume task delivery).isDrained := by
  cases task with
  | lane index =>
      have reported := resumeLane_reports index delivery
      intro done
      left
      show delivery.isDone
      unfold isDone at done ⊢
      rwa [← reported.courier]
  | courier =>
      show delivery.resumeCourier.isDone → delivery.isDone ∨ delivery.courier = .closing
        ∨ delivery.resumeCourier.isDrained
      unfold resumeCourier
      split
      case h_1 =>
        dsimp only
        split
        case isTrue ceased => exact fun _ => .inr (.inr (carry_drained _ _ ceased))
        case isFalse => rintro (impossible | impossible) <;> cases impossible
      case h_2 closing => exact fun _ => .inr (.inl closing)
      case h_3 joining => exact fun _ => .inl (.inl joining)
      case h_4 => exact .inl

end Delivery

end BoundedScene
