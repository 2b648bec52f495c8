import BoundedScene.Subscriber.Delivery

/-!
Contract: what the delivery of events adds to the bus that it reads.

Owns:
- the events of a scene, as opposed to the reports about its subscribers: those
  that its backend publishes, and the abort requests;
- the proof that a turn of a courier or a worker publishes nothing but reports.

Does not own: which events a scene publishes, and in which order.
-/

namespace BoundedScene

/-- An event that tells of a subscriber rather than of the scene. -/
def Event.isReport (event : Event) : Bool :=
  event.isOverflow || event.isPanic

/-- An event with which a caller aborts the scene. -/
def Event.isAbort (event : Event) : Bool :=
  event.kind == .abortRequested

/-- An event that the backend of a scene publishes. -/
def Event.isFromBackend (event : Event) : Bool :=
  match event.kind with
  | .subscriberPanicked => false
  | .subscriberOverflow => false
  | .abortRequested => false
  | _ => true

namespace Delivery

/-- The events on the feed that the backend of a scene published. -/
def backendEvents (delivery : Delivery) : List Event :=
  delivery.feed.published.filter Event.isFromBackend

/-- The events on the feed that are not about subscribers. -/
def sceneEvents (delivery : Delivery) : List Event :=
  delivery.feed.published.filter fun event => !event.isReport

/-- The abort requests on the feed. -/
def abortEvents (delivery : Delivery) : List Event :=
  delivery.feed.published.filter Event.isAbort

theorem backendEvents_eq (delivery : Delivery) :
    delivery.backendEvents = delivery.sceneEvents.filter Event.isFromBackend := by
  unfold backendEvents sceneEvents
  rw [List.filter_filter]
  refine List.filter_congr fun event _ => ?_
  cases kind : event.kind <;>
    simp [Event.isFromBackend, Event.isReport, Event.isOverflow, Event.isPanic, kind]

theorem abortEvents_eq (delivery : Delivery) :
    delivery.abortEvents = delivery.sceneEvents.filter Event.isAbort := by
  unfold abortEvents sceneEvents
  rw [List.filter_filter]
  refine List.filter_congr fun event _ => ?_
  cases kind : event.kind <;>
    simp [Event.isAbort, Event.isReport, Event.isOverflow, Event.isPanic, kind]

@[simp] theorem sceneEvents_wakeIf (delivery : Delivery) (condition : Bool)
    (task : DeliveryTask) :
    (delivery.wakeIf condition task).sceneEvents = delivery.sceneEvents := by
  unfold wakeIf
  split <;> rfl

theorem sceneEvents_publish (delivery : Delivery) (event : Event) :
    (delivery.publish event).sceneEvents =
      delivery.sceneEvents ++ [event].filter (fun event => !event.isReport) := by
  unfold publish
  rw [sceneEvents_wakeIf]
  simp [sceneEvents, Bus.publish]

/-- A report goes to a bus of its own or to the feed, where it is told apart by
its kind. -/
theorem sceneEvents_report (delivery : Delivery) {event : Event}
    (isReport : event.isReport = true) :
    (delivery.report event).sceneEvents = delivery.sceneEvents := by
  unfold report
  split
  · simp [sceneEvents_publish, isReport]
  · rfl

/-! ## The courier -/

theorem sceneEvents_offer (event : Event) (delivery : Delivery) (index : Nat) :
    (offer event delivery index).sceneEvents = delivery.sceneEvents := by
  unfold offer
  split
  · rfl
  · split
    · exact sceneEvents_wakeIf _ _ _
    · dsimp only
      split
      · rfl
      · exact sceneEvents_report _ rfl

theorem sceneEvents_emit (delivery : Delivery) (event : Event) :
    (delivery.emit event).sceneEvents = delivery.sceneEvents :=
  List.foldlRecOn (motive := fun reached => reached.sceneEvents = delivery.sceneEvents)
    _ (offer event) rfl fun reached same index _ =>
      (sceneEvents_offer event reached index).trans same

theorem sceneEvents_missOne (missed : Nat) (delivery : Delivery) (index : Nat) :
    (missOne missed delivery index).sceneEvents = delivery.sceneEvents := by
  unfold missOne
  split
  · rfl
  · exact sceneEvents_report _ rfl

theorem sceneEvents_miss (delivery : Delivery) (missed : Nat) :
    (delivery.miss missed).sceneEvents = delivery.sceneEvents :=
  List.foldlRecOn (motive := fun reached => reached.sceneEvents = delivery.sceneEvents)
    _ (missOne missed) rfl fun reached same index _ =>
      (sceneEvents_missOne missed reached index).trans same

theorem sceneEvents_carry (reads : Nat) (delivery : Delivery) :
    (delivery.carry reads).2.sceneEvents = delivery.sceneEvents := by
  induction reads generalizing delivery with
  | zero => rfl
  | succ reads inductionHypothesis =>
      unfold carry
      split
      · rw [inductionHypothesis, sceneEvents_emit]
        rfl
      · rw [inductionHypothesis, sceneEvents_miss]
        rfl
      · rfl

theorem sceneEvents_closeQueues_join (delivery : Delivery) :
    delivery.closeQueues.join.sceneEvents = delivery.sceneEvents :=
  rfl

theorem sceneEvents_resumeCourier (delivery : Delivery) :
    delivery.resumeCourier.sceneEvents = delivery.sceneEvents := by
  unfold resumeCourier
  split
  · dsimp only
    split
    · rw [sceneEvents_closeQueues_join]
      exact sceneEvents_carry _ _
    · exact sceneEvents_carry _ _
  · rfl
  · rfl
  · rfl

/-! ## The workers -/

/-- The reports of a worker's turn are panics. -/
theorem isReport_of_mem_work (lane : Lane) {event : Event}
    (reported : event ∈ lane.work.2) : event.isReport = true := by
  unfold Lane.work at reported
  split at reported
  · simp at reported
  · obtain ⟨taken, _, isReport⟩ := List.mem_filterMap.mp reported
    unfold Lane.panicReport? at isReport
    split at isReport
    · cases isReport
      rfl
    · simp at isReport

theorem sceneEvents_resumeLane (index : Nat) (delivery : Delivery) :
    (resumeLane index delivery).sceneEvents = delivery.sceneEvents := by
  unfold resumeLane
  split
  · rfl
  · rename_i lane _
    rw [sceneEvents_wakeIf]
    refine List.foldlRecOn
      (motive := fun reached => reached.sceneEvents = delivery.sceneEvents) _ report ?_ ?_
    · rfl
    · intro reached same event reported
      exact (sceneEvents_report reached (isReport_of_mem_work lane reported)).trans same

theorem sceneEvents_resume (task : DeliveryTask) (delivery : Delivery) :
    (resume task delivery).sceneEvents = delivery.sceneEvents := by
  cases task with
  | lane index => exact sceneEvents_resumeLane index delivery
  | courier => exact sceneEvents_resumeCourier delivery

theorem sceneEvents_permit (delivery : Delivery) (index count : Nat) :
    (delivery.permit index count).sceneEvents = delivery.sceneEvents := by
  unfold permit
  split
  · rfl
  · exact sceneEvents_wakeIf _ _ _

theorem sceneEvents_tellEnd (delivery : Delivery) :
    delivery.tellEnd.sceneEvents = delivery.sceneEvents :=
  sceneEvents_wakeIf _ _ _

end Delivery

end BoundedScene
