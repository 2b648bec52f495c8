import BoundedScene.Proofs.Isolation.Rounds

/-!
Contract: what a delivery publishes when it emits an event or counts a gap, whichever bus its
reports go to.

Owns:
- the reports of one round over all lanes;
- that an overflow event publishes nothing.

Main statements: `published_emit`, `published_miss` and `emit_quiet`.

Does not own: what becomes of the counts in the course of many rounds.
-/

namespace BoundedScene

namespace Delivery

variable {delivery : Delivery}

/-! ## One report -/

theorem reportBus_wakeIf (delivery : Delivery) (condition : Bool) (task : DeliveryTask) :
    (delivery.wakeIf condition task).reportBus = delivery.reportBus := by
  unfold wakeIf
  split <;> rfl

theorem reportBus_report (delivery : Delivery) (event : Event) :
    (delivery.report event).reportBus = delivery.reportBus.publish event := by
  unfold report
  cases own : delivery.reports with
  | none =>
      unfold publish
      rw [reportBus_wakeIf]
      simp only [reportBus, own, Option.getD_none]
  | some bus => simp only [reportBus, own, Option.getD_some]

theorem published_report (delivery : Delivery) (event : Event) :
    (delivery.report event).reportBus.published = delivery.reportBus.published ++ [event] := by
  rw [reportBus_report]
  rfl

/-! ## A round -/

/-- When each lane changes in its turn and something may be told of it, a round publishes what
is told of the lanes as they were, in their order. -/
theorem published_foldl_range {step : Delivery → Nat → Delivery} {change : Lane → Lane}
    {tells : Lane → Option Event}
    (lanes : ∀ delivery index, (step delivery index).lanes = delivery.lanes.modify index change)
    (published : ∀ delivery index, (step delivery index).reportBus.published
      = delivery.reportBus.published ++ (delivery.lanes[index]?.bind tells).toList)
    (delivery : Delivery) :
    ((List.range delivery.lanes.length).foldl step delivery).reportBus.published
      = delivery.reportBus.published ++ delivery.lanes.filterMap tells := by
  have upTo (count : Nat) :
      ((List.range count).foldl step delivery).reportBus.published
          = delivery.reportBus.published ++ (delivery.lanes.take count).filterMap tells
        ∧ ∀ position, count ≤ position →
          ((List.range count).foldl step delivery).lanes[position]?
            = delivery.lanes[position]? := by
    induction count with
    | zero => exact ⟨(List.append_nil _).symm, fun _ _ => rfl⟩
    | succ count inductionHypothesis =>
        obtain ⟨told, untouched⟩ := inductionHypothesis
        rw [List.range_succ, List.foldl_append, List.foldl_cons, List.foldl_nil]
        constructor
        · rw [published, told, untouched count (Nat.le_refl _), List.take_add_one,
            List.filterMap_append, List.append_assoc]
          cases delivery.lanes[count]? with
          | none => rfl
          | some lane =>
              rw [Option.bind_some, Option.toList_some, List.filterMap_cons]
              cases tells lane <;> rfl
        · intro position beyond
          rw [lanes, List.getElem?_modify, untouched position (by omega)]
          simp [show count ≠ position by omega]
  have whole := (upTo delivery.lanes.length).1
  rwa [List.take_length] at whole

theorem published_offer (event : Event) (delivery : Delivery) (index : Nat) :
    (offer event delivery index).reportBus.published
      = delivery.reportBus.published ++ (delivery.lanes[index]?.bind (refusal? event)).toList := by
  unfold offer
  cases found : delivery.lanes[index]? with
  | none => exact (List.append_nil _).symm
  | some lane =>
      rw [Option.bind_some, refusal?]
      dsimp only
      rcases lane.offer event with ⟨refused, next⟩
      cases refused with
      | none =>
          dsimp only
          rw [reportBus_wakeIf]
          exact (List.append_nil _).symm
      | some refusal =>
          cases event.isOverflow with
          | true => exact (List.append_nil _).symm
          | false => exact published_report ..

/-- To emit an event publishes the reports of the lanes that refuse it. -/
theorem published_emit (delivery : Delivery) (event : Event) :
    (delivery.emit event).reportBus.published
      = delivery.reportBus.published ++ delivery.lanes.filterMap (refusal? event) :=
  published_foldl_range (lanes_offer event) (published_offer event) delivery

theorem published_missOne (missed : Nat) (delivery : Delivery) (index : Nat) :
    (missOne missed delivery index).reportBus.published
      = delivery.reportBus.published
        ++ (delivery.lanes[index]?.bind fun lane => some (gapReport missed lane)).toList := by
  unfold missOne
  cases delivery.lanes[index]? with
  | none => exact (List.append_nil _).symm
  | some lane => exact published_report ..

/-- To count a gap publishes one report for every lane. -/
theorem published_miss (delivery : Delivery) (missed : Nat) :
    (delivery.miss missed).reportBus.published
      = delivery.reportBus.published
        ++ delivery.lanes.filterMap fun lane => some (gapReport missed lane) :=
  published_foldl_range (lanes_missOne missed) (published_missOne missed) delivery

/-! ## Overflow events -/

/-- Nothing is told of an overflow event; of another, its refusal. -/
theorem refusal?_eq (event : Event) (lane : Lane) :
    refusal? event lane
      = if event.isOverflow then none
        else (lane.offer event).1.map fun refusal =>
          overflowReport (lane.offer event).2 refusal.label := by
  unfold refusal?
  rcases lane.offer event with ⟨refused, next⟩
  cases refused with
  | none => exact (ite_self _).symm
  | some refusal => rfl

/-- What is told of a refused event is an overflow event. -/
theorem isOverflow_of_mem_refusals {event report : Event} {lanes : List Lane}
    (member : report ∈ lanes.filterMap (refusal? event)) : report.isOverflow = true := by
  obtain ⟨lane, -, told⟩ := List.mem_filterMap.mp member
  rw [refusal?_eq] at told
  split at told
  · cases told
  · obtain ⟨refusal, -, rfl⟩ := Option.map_eq_some_iff.mp told
    rfl

theorem offer_quiet {event : Event} (overflow : event.isOverflow = true) (delivery : Delivery)
    (index : Nat) :
    (offer event delivery index).feed = delivery.feed
      ∧ (offer event delivery index).reports = delivery.reports := by
  unfold offer
  cases delivery.lanes[index]? with
  | none => exact ⟨rfl, rfl⟩
  | some lane =>
      dsimp only
      rcases lane.offer event with ⟨refused, next⟩
      cases refused with
      | none =>
          dsimp only
          unfold wakeIf
          split <;> exact ⟨rfl, rfl⟩
      | some refusal =>
          dsimp only
          rw [if_pos overflow]
          exact ⟨rfl, rfl⟩

/-- To emit an overflow event publishes nothing, whatever the queues do with it. -/
theorem emit_quiet {event : Event} (overflow : event.isOverflow = true) (delivery : Delivery) :
    (delivery.emit event).feed = delivery.feed
      ∧ (delivery.emit event).reports = delivery.reports :=
  List.foldlRecOn (motive := fun reached : Delivery =>
      reached.feed = delivery.feed ∧ reached.reports = delivery.reports) _ (offer event)
    ⟨rfl, rfl⟩ fun reached soFar index _ =>
      have further := offer_quiet overflow reached index
      ⟨further.1.trans soFar.1, further.2.trans soFar.2⟩

end Delivery

end BoundedScene
