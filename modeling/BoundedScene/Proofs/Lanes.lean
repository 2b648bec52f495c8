import BoundedScene.Proofs.Delivery

/-!
Contract: what became of the events that were offered to a lane.

Owns:
- `Lane.Accounts`, the balance of a lane against the events offered to it;
- one lemma for each operation of a lane;
- what offering an event, or counting a gap, does to all lanes of a delivery.

Main statement: `Lane.Accounted` is kept by every operation, and an event offered, or
missed, is entered on the other side.

Does not own: which events a courier reads.
-/

namespace BoundedScene

namespace Lane

/-- The balance of a lane against the events offered to it: each of them was missed,
taken in, is on its way to the subscriber, or went down with the worker's task.  Those
taken in and those on their way stand in the order in which they were offered. -/
structure Accounts (offered : List Event) (missed discarded : Nat) (lane : Lane) : Prop where
  balance :
    missed + discarded + lane.handled.length + lane.pending.length = offered.length
  counter : lane.dropped = min missed largestDropped
  order : (lane.handled ++ lane.pending).Sublist offered
  kept : lane.worker ≠ .lost → discarded = 0
  idle : lane.isLive = false → lane.pending = []

/-- The events offered to a lane are accounted for. -/
def Accounted (offered : List Event) (lane : Lane) : Prop :=
  ∃ missed discarded, lane.Accounts offered missed discarded

theorem isLive_iff (lane : Lane) : lane.isLive = true ↔ lane.worker = .live := by
  simp [isLive]

variable {offered : List Event} {lane : Lane}

/-- To a lane nothing has been offered yet. -/
theorem accounted_fresh (profile : Profile) : Accounted [] { profile } :=
  ⟨0, 0, rfl, by simp, List.Sublist.refl [], fun _ => rfl, fun _ => rfl⟩

theorem Accounted.miss (account : lane.Accounted offered) (gap : List Event) :
    (lane.miss gap.length).Accounted (offered ++ gap) := by
  obtain ⟨missed, discarded, account⟩ := account
  have balance := account.balance
  have counter := account.counter
  refine ⟨missed + gap.length, discarded, ?_, ?_, ?_, account.kept, account.idle⟩
  · show missed + gap.length + discarded + lane.handled.length + lane.pending.length = _
    rw [List.length_append]
    omega
  · show min (lane.dropped + gap.length) largestDropped = _
    omega
  · exact account.order.trans (List.sublist_append_left offered gap)

theorem pending_push (lane : Lane) (event : Event) :
    ({ lane with queue := lane.queue ++ [event] } : Lane).pending = lane.pending ++ [event] := by
  simp [pending]

theorem Accounted.offer (account : lane.Accounted offered) (event : Event) :
    (lane.offer event).2.Accounted (offered ++ [event]) := by
  unfold Lane.offer
  split
  case isTrue => exact account.miss [event]
  case isFalse live =>
    split
    case isFalse => exact account.miss [event]
    case isTrue =>
      obtain ⟨missed, discarded, account⟩ := account
      have balance := account.balance
      refine ⟨missed, discarded, ?_, account.counter, ?_, account.kept, ?_⟩
      · rw [pending_push, List.length_append, List.length_append, ← balance]
        simp only [List.length_singleton]
        omega
      · rw [pending_push, ← List.append_assoc]
        exact account.order.append (List.Sublist.refl [event])
      · intro idle
        simp only [Bool.not_eq_true, Bool.not_eq_false'] at live
        rw [show lane.isLive = false from idle] at live
        exact absurd live Bool.false_ne_true

/-- The event in hand and those in the queue make up what is left over. -/
theorem toList_head?_append_tail (left : List Event) : left.head?.toList ++ left.tail = left := by
  cases left <;> rfl

theorem Accounted.work (account : lane.Accounted offered) :
    lane.work.1.Accounted offered := by
  unfold Lane.work
  split
  case isTrue => exact account
  case isFalse live =>
    obtain ⟨missed, discarded, account⟩ := account
    have live : lane.worker = .live := lane.isLive_iff.mp (by simpa using live)
    have alive : lane.worker ≠ .lost := by simp [live]
    have whole := List.take_append_drop lane.reach lane.pending
    have sizes := congrArg List.length whole
    rw [List.length_append] at sizes
    have balance := account.balance
    have left := toList_head?_append_tail (lane.pending.drop lane.reach)
    refine ⟨missed, discarded, ?_, account.counter, ?_, fun _ => account.kept alive, ?_⟩
    · simp only [pending] at left balance sizes ⊢
      rw [left, List.length_append]
      omega
    · simp only [pending] at left whole ⊢
      rw [left, List.append_assoc, whole]
      exact account.order
    · intro idle
      simp only [pending] at left idle ⊢
      rw [left]
      cases rest : List.drop lane.reach (lane.inHand.toList ++ lane.queue) with
      | nil => rfl
      | cons => simp [isLive, rest] at idle

theorem Accounted.permit (account : lane.Accounted offered) (count : Nat) :
    (lane.permit count).Accounted offered := by
  unfold Lane.permit
  split
  · obtain ⟨missed, discarded, account⟩ := account
    exact ⟨missed, discarded, account.balance, account.counter, account.order, account.kept,
      account.idle⟩
  · exact account

theorem Accounted.close (account : lane.Accounted offered) : lane.close.Accounted offered := by
  obtain ⟨missed, discarded, account⟩ := account
  exact ⟨missed, discarded, account.balance, account.counter, account.order, account.kept,
    account.idle⟩

theorem Accounted.lose (account : lane.Accounted offered) : lane.lose.Accounted offered := by
  unfold Lane.lose
  split
  case isFalse => exact account
  case isTrue =>
    obtain ⟨missed, discarded, account⟩ := account
    have balance := account.balance
    refine ⟨missed, discarded + lane.pending.length, ?_, account.counter, ?_,
      fun stillThere => absurd rfl stillThere, fun _ => rfl⟩
    · show missed + (discarded + lane.pending.length) + lane.handled.length + 0 = _
      omega
    · show (lane.handled ++ []).Sublist offered
      rw [List.append_nil]
      exact (List.sublist_append_left _ _).trans account.order

end Lane

namespace Delivery

/-! ## All lanes at once -/

theorem set_changed (change : Lane → Lane) (delivery : Delivery) {index : Nat} {lane : Lane}
    (found : delivery.lanes[index]? = some lane) :
    (delivery.setLane index (change lane)).lanes = delivery.lanes.modify index change := by
  obtain ⟨inRange, rfl⟩ := List.getElem?_eq_some_iff.mp found
  refine List.ext_getElem? fun position => ?_
  rw [setLane, List.getElem?_set, List.getElem?_modify]
  by_cases same : index = position
  · subst same
    simp [inRange]
  · simp [same]

theorem modify_missing (change : Lane → Lane) {delivery : Delivery} {index : Nat}
    (missing : delivery.lanes[index]? = none) :
    delivery.lanes.modify index change = delivery.lanes :=
  List.modify_eq_self (List.getElem?_eq_none_iff.mp missing)

/-- Changing each lane in turn changes all of them. -/
theorem lanes_foldl_range {step : Delivery → Nat → Delivery} {change : Lane → Lane}
    (one : ∀ delivery index, (step delivery index).lanes = delivery.lanes.modify index change)
    (delivery : Delivery) :
    ((List.range delivery.lanes.length).foldl step delivery).lanes
      = delivery.lanes.map change := by
  have upTo (count position : Nat) :
      ((List.range count).foldl step delivery).lanes[position]?
        = delivery.lanes[position]?.map fun lane =>
            if position < count then change lane else lane := by
    induction count with
    | zero => simp
    | succ count inductionHypothesis =>
        rw [List.range_succ, List.foldl_append, List.foldl_cons, List.foldl_nil, one,
          List.getElem?_modify, inductionHypothesis, Option.map_eq_map, Option.map_map]
        congr 1
        funext lane
        by_cases last : count = position
        · simp [last]
        · have earlier : position < count + 1 ↔ position < count := by omega
          simp [last, earlier]
  refine List.ext_getElem? fun position => ?_
  rw [upTo, List.getElem?_map]
  cases found : delivery.lanes[position]? with
  | none => rfl
  | some lane => simp [(List.getElem?_eq_some_iff.mp found).1]

/-- Between two deliveries nothing happened but that reports were published, lanes
changed and tasks were woken. -/
structure Reports (before after : Delivery) : Prop where
  position : after.position = before.position
  courier : after.courier = before.courier
  ended : after.ended = before.ended
  feedAbandoned : after.feedAbandoned = before.feedAbandoned
  apart : after.reports.isSome = before.reports.isSome
  slots : after.feed.slots = before.feed.slots
  published : before.feed.published <+: after.feed.published
  untouched : before.reports.isSome = true → after.feed = before.feed

namespace Reports

theorem refl (delivery : Delivery) : Reports delivery delivery :=
  ⟨rfl, rfl, rfl, rfl, rfl, rfl, List.prefix_rfl, fun _ => rfl⟩

theorem trans {before middle after : Delivery} (early : Reports before middle)
    (late : Reports middle after) : Reports before after where
  position := late.position.trans early.position
  courier := late.courier.trans early.courier
  ended := late.ended.trans early.ended
  feedAbandoned := late.feedAbandoned.trans early.feedAbandoned
  apart := late.apart.trans early.apart
  slots := late.slots.trans early.slots
  published := early.published.trans late.published
  untouched elsewhere :=
    (late.untouched (early.apart.trans elsewhere)).trans (early.untouched elsewhere)

end Reports

theorem wakeIf_reports (delivery : Delivery) (condition : Bool) (task : DeliveryTask) :
    Reports delivery (delivery.wakeIf condition task) := by
  unfold wakeIf
  split
  · exact ⟨rfl, rfl, rfl, rfl, rfl, rfl, List.prefix_rfl, fun _ => rfl⟩
  · exact .refl delivery

@[simp] theorem lanes_wakeIf (delivery : Delivery) (condition : Bool) (task : DeliveryTask) :
    (delivery.wakeIf condition task).lanes = delivery.lanes := by
  unfold wakeIf
  split <;> rfl

theorem setLane_reports (delivery : Delivery) (index : Nat) (lane : Lane) :
    Reports delivery (delivery.setLane index lane) :=
  ⟨rfl, rfl, rfl, rfl, rfl, rfl, List.prefix_rfl, fun _ => rfl⟩

theorem report_reports (delivery : Delivery) (event : Event) :
    Reports delivery (delivery.report event) := by
  unfold report
  split
  case h_1 shared =>
    unfold publish
    refine Reports.trans ?_ (wakeIf_reports _ _ _)
    exact { Reports.refl delivery with
      published := List.prefix_append _ _
      untouched := fun elsewhere => by simp [shared] at elsewhere }
  case h_2 bus apart =>
    exact { Reports.refl delivery with
      apart := by simp [apart] }

@[simp] theorem lanes_report (delivery : Delivery) (event : Event) :
    (delivery.report event).lanes = delivery.lanes := by
  unfold report publish
  split
  · rw [lanes_wakeIf]
  · rfl

theorem offer_reports (event : Event) (delivery : Delivery) (index : Nat) :
    Reports delivery (offer event delivery index) := by
  unfold offer
  split
  · exact .refl delivery
  · split
    · exact (setLane_reports ..).trans (wakeIf_reports ..)
    · dsimp only
      split
      · exact setLane_reports ..
      · exact (setLane_reports ..).trans (report_reports ..)

theorem lanes_offer (event : Event) (delivery : Delivery) (index : Nat) :
    (offer event delivery index).lanes
      = delivery.lanes.modify index fun lane => (lane.offer event).2 := by
  unfold offer
  split
  case h_1 missing => exact (modify_missing _ missing).symm
  case h_2 lane found =>
    have changed := set_changed (fun lane => (lane.offer event).2) delivery found
    split
    case h_1 accepted => rw [lanes_wakeIf, ← changed, accepted]
    case h_2 refused =>
      dsimp only
      rw [← changed, refused]
      split
      · rfl
      · rw [lanes_report]

theorem missOne_reports (missed : Nat) (delivery : Delivery) (index : Nat) :
    Reports delivery (missOne missed delivery index) := by
  unfold missOne
  split
  · exact .refl delivery
  · exact (setLane_reports ..).trans (report_reports ..)

theorem lanes_missOne (missed : Nat) (delivery : Delivery) (index : Nat) :
    (missOne missed delivery index).lanes
      = delivery.lanes.modify index fun lane => lane.miss missed := by
  unfold missOne
  split
  case h_1 missing => exact (modify_missing _ missing).symm
  case h_2 lane found =>
    dsimp only
    rw [lanes_report]
    exact set_changed (fun lane => lane.miss missed) delivery found

theorem emit_reports (delivery : Delivery) (event : Event) :
    Reports delivery (delivery.emit event) :=
  List.foldlRecOn (motive := Reports delivery) _ (offer event) (.refl delivery)
    fun reached soFar index _ => soFar.trans (offer_reports event reached index)

theorem lanes_emit (delivery : Delivery) (event : Event) :
    (delivery.emit event).lanes = delivery.lanes.map fun lane => (lane.offer event).2 :=
  lanes_foldl_range (lanes_offer event) delivery

theorem miss_reports (delivery : Delivery) (missed : Nat) :
    Reports delivery (delivery.miss missed) :=
  List.foldlRecOn (motive := Reports delivery) _ (missOne missed) (.refl delivery)
    fun reached soFar index _ => soFar.trans (missOne_reports missed reached index)

theorem lanes_miss (delivery : Delivery) (missed : Nat) :
    (delivery.miss missed).lanes = delivery.lanes.map fun lane => lane.miss missed :=
  lanes_foldl_range (lanes_missOne missed) delivery

end Delivery

end BoundedScene
