import BoundedScene.Proofs.Isolation.Rest

/-!
Contract: subscribers have nothing to do with each other.

Owns:
- `Fanout.Watched.outlook`, what a fan-out looks like to one of its subscribers;
- the steps that concern a subscriber;
- two fan-outs that look alike to a subscriber each.

Main statement: `subscribers_are_isolated`.

Does not own: how a delivery looks to one lane.
-/

namespace BoundedScene

namespace Fanout

open Delivery (nameAlone nameDeparted eq_of_nameAlone)

variable {fanout : Fanout} {quiet : Bool} {index : Nat}

/-! ## A courier that has departed -/

/-- Nothing is remembered of a courier that has departed. -/
def forget (fanout : Fanout) : Fanout :=
  { fanout with
    agenda := if fanout.delivery.departed then fanout.agenda.seen nameDeparted else fanout.agenda
    delivery := fanout.delivery.forget
    completed := none }

theorem nameDeparted_apart {task other name : DeliveryTask}
    (first : nameDeparted task = some name) (second : nameDeparted other = some name) :
    task = other := by
  cases task <;> cases other <;> simp_all [nameDeparted]

theorem seen_nameDeparted (agenda : Agenda DeliveryTask) :
    (agenda.seen nameDeparted).seen nameDeparted = agenda.seen nameDeparted := by
  unfold Agenda.seen
  rw [Delivery.nameDeparted_idem]

theorem forget_absorb (fanout : Fanout) : fanout.absorb.forget = fanout.forget.absorb := by
  unfold absorb forget
  cases gone : fanout.delivery.departed with
  | false =>
      have still : ({ fanout.delivery with woken := [] } : Delivery).departed = false := gone
      rw [Delivery.forget_of_present gone, Delivery.forget_of_present still]
      simp [still]
  | true =>
      have still : ({ fanout.delivery with woken := [] } : Delivery).departed = true := gone
      rw [Delivery.forget_of_departed gone, Delivery.forget_of_departed still]
      simp [still, Agenda.seen_wakeAll _ nameDeparted_apart]

theorem forget_noteCompletion (fanout : Fanout) :
    fanout.noteCompletion.forget = fanout.forget := by
  unfold noteCompletion
  split <;> rfl

theorem forget_with {left right : Delivery} (same : left.forget = right.forget) :
    ({ fanout with delivery := left } : Fanout).forget
      = ({ fanout with delivery := right } : Fanout).forget := by
  have departed : left.departed = right.departed := by
    rw [← Delivery.departed_forget left, same, Delivery.departed_forget]
  simp only [forget, departed, same]

/-- A change that does not bring a departed courier back does not depend on where it has
gone. -/
theorem forget_update {change : Delivery → Delivery}
    (forgets : (change fanout.delivery.forget).forget = (change fanout.delivery).forget)
    (stays : fanout.delivery.departed = true → (change fanout.delivery).departed = true) :
    (fanout.forget.update change).forget = (fanout.update change).forget := by
  have departed : (change fanout.delivery.forget).departed = (change fanout.delivery).departed := by
    rw [← Delivery.departed_forget, forgets, Delivery.departed_forget]
  have same : ({ fanout.forget with delivery := change fanout.forget.delivery } : Fanout).forget
      = ({ fanout with delivery := change fanout.delivery } : Fanout).forget := by
    show ({ fanout.forget with delivery := change fanout.delivery.forget } : Fanout).forget = _
    rw [forget_with forgets]
    cases gone : fanout.delivery.departed with
    | false => simp [forget, gone]
    | true => simp [forget, gone, stays gone, seen_nameDeparted]
  unfold update
  rw [forget_absorb, forget_absorb, same]

theorem forget_idem (fanout : Fanout) : fanout.forget.forget = fanout.forget := by
  cases gone : fanout.delivery.departed <;>
    simp [forget, gone, Delivery.forget_idem, seen_nameDeparted]

/-! ## Looking at one lane -/

theorem nameAlone_apart {task other name : DeliveryTask}
    (first : nameAlone index task = some name) (second : nameAlone index other = some name) :
    task = other := by
  cases task with
  | courier =>
      cases first
      cases other with
      | courier => rfl
      | lane place => simp [nameAlone] at second
  | lane place =>
      obtain ⟨rfl, rfl⟩ := eq_of_nameAlone first
      cases other with
      | courier => cases second
      | lane another => rw [(eq_of_nameAlone second).1]

namespace Watched

variable {watched next : Watched}

/-- The fan-out with one lane only. -/
def alone (quiet : Bool) (index : Nat) (watched : Watched) : Fanout :=
  { agenda := watched.fanout.agenda.seen (nameAlone index)
    delivery := watched.fanout.delivery.alone quiet index watched.told
    errand := watched.fanout.errand }

/-- What a fan-out looks like to one of its subscribers, who may be kept from panicking. -/
def outlook (quiet : Bool) (index : Nat) (watched : Watched) : Fanout :=
  (watched.alone quiet index).forget

/-- The fan-out after a change of its delivery, in which reports were made. -/
def after (watched : Watched) (change : Delivery → Delivery) (said : List (Nat × Event)) :
    Watched :=
  { fanout := watched.fanout.update change, told := watched.told ++ said }

theorem alone_after (change : Delivery → Delivery) (said : List (Nat × Event)) :
    (watched.after change said).alone quiet index
      = ({ watched.alone quiet index with
          delivery := (change watched.fanout.delivery).alone quiet index (watched.told ++ said) }
            : Fanout).absorb := by
  unfold alone after update absorb
  simp only [Agenda.seen_wakeAll _ nameAlone_apart]
  rfl

/-- A change that looks the same where there is one lane only. -/
theorem outlook_after {change own : Delivery → Delivery} {said : List (Nat × Event)}
    (same : ((change watched.fanout.delivery).alone quiet index (watched.told ++ said)).forget
      = (own (watched.fanout.delivery.alone quiet index watched.told)).forget)
    (forgets : (own (watched.fanout.delivery.alone quiet index watched.told).forget).forget
      = (own (watched.fanout.delivery.alone quiet index watched.told)).forget)
    (stays : watched.fanout.delivery.departed = true →
      (own (watched.fanout.delivery.alone quiet index watched.told)).departed = true) :
    (watched.after change said).outlook quiet index
      = ((watched.outlook quiet index).update own).forget := by
  unfold outlook
  rw [alone_after, forget_absorb, forget_with same, ← forget_absorb]
  exact (@forget_update (watched.alone quiet index) own forgets stays).symm

/-- A change that is not seen. -/
theorem outlook_after_unseen {change : Delivery → Delivery} {said : List (Nat × Event)}
    (steady : watched.fanout.Steady)
    (same : ((change watched.fanout.delivery).alone quiet index (watched.told ++ said)).forget
      = (watched.fanout.delivery.alone quiet index watched.told).forget) :
    (watched.after change said).outlook quiet index = watched.outlook quiet index := by
  have idle : (watched.alone quiet index).absorb = watched.alone quiet index := by
    unfold alone absorb Delivery.alone
    rw [steady.absorbed]
    rfl
  unfold outlook
  rw [alone_after, forget_absorb, forget_with same, ← forget_absorb]
  exact congrArg forget idle

theorem outlook_noteCompletion (fanout : Fanout) (told : List (Nat × Event)) :
    outlook quiet index ⟨fanout.noteCompletion, told⟩ = outlook quiet index ⟨fanout, told⟩ := by
  unfold noteCompletion
  split <;> rfl

/-! ## Turns -/

/-- The fan-out before the turn of the oldest ready task. -/
def dequeued (watched : Watched) (later : List DeliveryTask) : Watched :=
  { watched with
    fanout := { watched.fanout with agenda := { watched.fanout.agenda with ready := later } } }

/-- What is seen goes on by the turns of a fan-out with one lane only. -/
def goOn? (fanout : Fanout) : Option Fanout :=
  (Turns.turn? fanout).map forget

theorem outlook_resume (task : DeliveryTask) :
    outlook quiet index (Turns.resume task watched)
      = outlook quiet index
        (watched.after (Delivery.resume task) (Delivery.blames task watched.fanout.delivery)) :=
  outlook_noteCompletion ..

/-- The name under which a task is seen. -/
def seenAs (index : Nat) (delivery : Delivery) (task : DeliveryTask) : Option DeliveryTask :=
  (nameAlone index task).bind fun own =>
    if delivery.departed then nameDeparted own else some own

theorem outlook_eq (watched : Watched) :
    watched.outlook quiet index
      = { agenda := watched.fanout.agenda.seen (seenAs index watched.fanout.delivery)
          delivery := (watched.fanout.delivery.alone quiet index watched.told).forget
          errand := watched.fanout.errand } := by
  have agenda : (if watched.fanout.delivery.departed then
        (watched.fanout.agenda.seen (nameAlone index)).seen nameDeparted
      else watched.fanout.agenda.seen (nameAlone index))
      = watched.fanout.agenda.seen (seenAs index watched.fanout.delivery) := by
    unfold seenAs
    split
    case isTrue => simp [Agenda.seen, List.filterMap_filterMap]
    case isFalse => simp [Agenda.seen]
  rw [← agenda]
  rfl

theorem named_of_seenAs {task own : DeliveryTask} {delivery : Delivery}
    (seen : seenAs index delivery task = some own) :
    nameAlone index task = some own ∧ (task = .courier → delivery.departed = false) := by
  unfold seenAs at seen
  obtain ⟨name, named, kept⟩ := Option.bind_eq_some_iff.mp seen
  split at kept
  case isTrue =>
    cases task with
    | courier =>
        cases named
        cases kept
    | lane place =>
        obtain ⟨-, rfl⟩ := eq_of_nameAlone named
        exact ⟨named.trans kept, by simp⟩
  case isFalse present =>
    exact ⟨named.trans kept, fun _ => by simpa using present⟩

theorem seenAs_of_named {task own : DeliveryTask} {delivery : Delivery}
    (named : nameAlone index task = some own)
    (present : task = .courier → delivery.departed = false) :
    seenAs index delivery task = some own := by
  unfold seenAs
  rw [named, Option.bind_some]
  split
  case isTrue gone =>
    cases task with
    | courier => cases (present rfl).symm.trans gone
    | lane place =>
        obtain ⟨-, rfl⟩ := eq_of_nameAlone named
        rfl
  case isFalse => rfl

theorem outlook_turn_seen {task own : DeliveryTask} {later : List DeliveryTask}
    (steady : watched.fanout.Steady) (ready : watched.fanout.agenda.ready = task :: later)
    (named : nameAlone index task = some own)
    (present : task = .courier → watched.fanout.delivery.departed = false) :
    goOn? (watched.outlook quiet index)
      = some (outlook quiet index (Turns.resume task (watched.dequeued later))) := by
  have head : (Turns.agenda (watched.outlook quiet index)).ready
      = own :: later.filterMap (seenAs index watched.fanout.delivery) := by
    rw [outlook_eq]
    show watched.fanout.agenda.ready.filterMap _ = _
    rw [ready, List.filterMap_cons, seenAs_of_named named present]
  have rest : Turns.withAgenda (watched.outlook quiet index)
      { Turns.agenda (watched.outlook quiet index) with
        ready := later.filterMap (seenAs index watched.fanout.delivery) }
      = (watched.dequeued later).outlook quiet index := by
    rw [outlook_eq, outlook_eq]
    rfl
  rw [goOn?, Turns.turn_of_ready head, rest, Option.map_some, outlook_resume]
  show some (forget (noteCompletion _)) = _
  rw [forget_noteCompletion, outlook_after]
  · exact Delivery.forget_alone_resume steady.apart named present
  · cases task with
    | courier =>
        cases named
        have stays : ((watched.dequeued later).fanout.delivery.alone quiet index
            (watched.dequeued later).told).departed = false := present rfl
        rw [Delivery.forget_of_present stays]
    | lane place =>
        obtain ⟨-, rfl⟩ := eq_of_nameAlone named
        exact Delivery.forgets_resumeLane 0 rfl
  · intro gone
    cases task with
    | courier => cases (present rfl).symm.trans gone
    | lane place =>
        obtain ⟨-, rfl⟩ := eq_of_nameAlone named
        unfold Delivery.departed at gone ⊢
        rw [show (Delivery.resume (.lane 0) _).courier = _ from
          (Delivery.resumeLane_reports 0 _).courier]
        exact gone

theorem outlook_turn_unseen {task : DeliveryTask} {later : List DeliveryTask}
    (steady : watched.fanout.Steady) (ready : watched.fanout.agenda.ready = task :: later)
    (unseen : seenAs index watched.fanout.delivery task = none) :
    outlook quiet index (Turns.resume task (watched.dequeued later))
      = watched.outlook quiet index := by
  have waits : (watched.dequeued later).outlook quiet index = watched.outlook quiet index := by
    rw [outlook_eq, outlook_eq]
    simp [dequeued, Agenda.seen, ready, unseen]
  rw [outlook_resume, ← waits]
  refine outlook_after_unseen (steady.dequeue ready) ?_
  cases task with
  | courier =>
      have gone : watched.fanout.delivery.departed = true := by
        by_contra present
        simp [seenAs, nameAlone, present] at unseen
      exact Delivery.forget_alone_departed gone
  | lane place =>
      have other : place ≠ index := by
        rintro rfl
        unfold seenAs at unseen
        split at unseen <;> simp [nameAlone, nameDeparted] at unseen
      exact Delivery.forget_alone_resumeLane steady.apart other

theorem steady_keeps_watched : Turns.Keeps fun watched : Watched => watched.fanout.Steady where
  resume steady ready := steady_keeps.resume steady ready
  reach instant steady := steady_keeps.reach instant steady

/-- What a subscriber sees of a fan-out goes on like a fan-out without the others. -/
theorem shows_outlook (quiet : Bool) (index : Nat) :
    Turns.Shows (fun watched : Watched => watched.fanout.Steady) (outlook quiet index) goOn? where
  keeps := steady_keeps_watched
  turn {watched next} steady turn := by
    cases ready : watched.fanout.agenda.ready with
    | nil =>
        rw [Turns.turn_of_idle (show (Turns.agenda watched).ready = [] from ready),
          show (Turns.clock watched).isBehind = false from steady.current] at turn
        cases turn
    | cons task later =>
        rw [Turns.turn_of_ready (show (Turns.agenda watched).ready = _ from ready)] at turn
        cases turn
        cases seen : seenAs index watched.fanout.delivery task with
        | none => exact .inl (outlook_turn_unseen steady ready seen)
        | some own =>
            obtain ⟨named, present⟩ := named_of_seenAs seen
            exact .inr (outlook_turn_seen steady ready named present)
  rest {watched} steady rest := by
    cases ready : watched.fanout.agenda.ready with
    | cons task later =>
        rw [Turns.turn_of_ready (show (Turns.agenda watched).ready = _ from ready)] at rest
        cases rest
    | nil =>
        have idle : (Turns.agenda (watched.outlook quiet index)).ready = [] := by
          rw [outlook_eq]
          show watched.fanout.agenda.ready.filterMap _ = []
          rw [ready, List.filterMap_nil]
        have current : (Turns.clock (watched.outlook quiet index)).isBehind = false := by
          rw [outlook_eq]
          exact steady.current
        rw [goOn?, Turns.turn_of_idle idle, current]
        rfl

theorem settles_watched (steady : watched.fanout.Steady) : Turns.Settles watched := by
  have rest := settles steady
  unfold Turns.Settles at rest ⊢
  rw [show Turns.settle watched.fanout = (Turns.settle watched).fanout from
    (Turns.run_image fanout_turn _ watched).symm, fanout_turn] at rest
  exact Option.map_eq_none_iff.mp rest

end Watched

/-! ## Steps -/

/-- A step as it concerns one subscriber; what the others are allowed does not. -/
def Step.concerning (index : Nat) : Step → Option Step
  | .release subscriber count => if subscriber = index then some (.release 0 count) else none
  | step => some step

theorem concerning_own {step own : Step} (concerns : step.concerning index = some own) :
    own.concerning 0 = some own := by
  cases step with
  | release subscriber count =>
      obtain ⟨-, rfl⟩ : subscriber = index ∧ Step.release 0 count = own := by
        simpa [Step.concerning] using concerns
      rfl
  | _ =>
      cases concerns
      rfl

namespace Watched

variable {watched other : Watched}

theorem isOwned_outlook (watched : Watched) :
    (watched.outlook quiet index).isOwned = watched.fanout.isOwned := by
  let alone := watched.fanout.delivery.alone quiet index watched.told
  show (alone.forget.courier == .resting) = (alone.courier == .resting)
  cases gone : alone.departed with
  | false => rw [Delivery.forget_of_present gone]
  | true =>
      rw [Delivery.forget_of_departed gone]
      unfold Delivery.departed at gone
      cases courier : alone.courier <;> simp_all

theorem present_of_isOwned (owned : watched.fanout.isOwned = true) :
    watched.fanout.delivery.departed = false := by
  unfold Delivery.departed
  rw [resting_of_isOwned owned]

theorem feedAbandoned_outlook (watched : Watched) :
    (watched.outlook quiet index).delivery.feedAbandoned
      = watched.fanout.delivery.feedAbandoned := by
  show (watched.fanout.delivery.alone quiet index watched.told).forget.feedAbandoned = _
  unfold Delivery.forget
  split <;> rfl

/-- A change before the courier departs. -/
theorem outlook_after_present {change own : Delivery → Delivery} {said : List (Nat × Event)}
    (present : watched.fanout.delivery.departed = false)
    (same : (change watched.fanout.delivery).alone quiet index (watched.told ++ said)
      = own (watched.fanout.delivery.alone quiet index watched.told)) :
    (watched.after change said).outlook quiet index
      = ((watched.outlook quiet index).update own).forget := by
  have presentAlone : (watched.fanout.delivery.alone quiet index watched.told).departed = false :=
    present
  refine outlook_after (congrArg _ same) ?_ fun gone => ?_
  · rw [Delivery.forget_of_present presentAlone]
  · cases present.symm.trans gone

/-- A change that tells nothing. -/
theorem outlook_update {change own : Delivery → Delivery} (forgets : Delivery.Forgets own)
    (same : (change watched.fanout.delivery).alone quiet index watched.told
      = own (watched.fanout.delivery.alone quiet index watched.told))
    (courier : ∀ delivery, (own delivery).courier = delivery.courier) :
    outlook quiet index { watched with fanout := watched.fanout.update change }
      = ((watched.outlook quiet index).update own).forget := by
  have silent : ({ watched with fanout := watched.fanout.update change } : Watched)
      = watched.after change [] := by
    simp [after]
  rw [silent, outlook_after _ (forgets _)]
  · intro gone
    unfold Delivery.departed at gone ⊢
    rwa [courier]
  · rw [List.append_nil, same]

theorem outlook_giveAway (present : watched.fanout.delivery.departed = false) (errand : Errand) :
    outlook quiet index { watched with fanout := watched.fanout.giveAway errand }
      = ((watched.outlook quiet index).giveAway errand).forget := by
  let given : Watched := { watched with fanout := { watched.fanout with errand := some errand } }
  have own : given.outlook quiet index
      = { watched.outlook quiet index with errand := some errand } := by
    rw [outlook_eq, outlook_eq]
  have leaves (courier : Courier) :
      outlook quiet index { watched with
        fanout := given.fanout.update fun delivery => ({ delivery with courier }).wake .courier }
      = (({ watched.outlook quiet index with errand := some errand } : Fanout).update
          fun delivery => ({ delivery with courier }).wake .courier).forget := by
    have after := @outlook_after_present quiet index given
      (fun delivery => ({ delivery with courier }).wake .courier)
      (fun delivery => ({ delivery with courier }).wake .courier) [] present
      (by simp [Delivery.alone, Delivery.wake, nameAlone])
    rw [← own, ← after]
    simp [Watched.after, given]
  cases errand with
  | shutdown => exact leaves .closing
  | forward => exact leaves .forwarding

theorem forget_idle (clock : Clock) (delivery : Delivery) (errand : Option Errand) :
    ({ agenda := { clock }, delivery, errand } : Fanout).forget
      = { agenda := { clock }, delivery := delivery.forget, errand } := by
  unfold forget
  cases delivery.departed <;> rfl

theorem outlook_dropTasks (watched : Watched) :
    (watched.perform .dropTasks).outlook quiet index
      = ((watched.outlook quiet index).perform .dropTasks).forget := by
  have lost := Delivery.forgets_lose (watched.fanout.delivery.alone quiet index watched.told)
  rw [← Delivery.alone_lose] at lost
  have right : ((watched.outlook quiet index).perform .dropTasks).forget
      = forget { agenda := { clock := watched.fanout.agenda.clock }
                 delivery := (watched.fanout.delivery.alone quiet index watched.told).forget.lose
                 errand := watched.fanout.errand } := by
    rw [outlook_eq]
    rfl
  rw [outlook_eq, right, forget_idle, lost]
  rfl

/-- A step that concerns a subscriber looks the same without the others. -/
theorem outlook_perform {step own : Step} (steady : watched.fanout.Steady)
    (concerns : step.concerning index = some own) (waits : own ≠ .settle) :
    (watched.perform step).outlook quiet index
      = ((watched.outlook quiet index).perform own).forget := by
  cases step with
  | emit event times =>
      cases concerns
      dsimp only [perform, Fanout.perform]
      rw [isOwned_outlook]
      cases owned : watched.fanout.isOwned with
      | true =>
          simp only [if_true]
          refine outlook_after_present (present_of_isOwned owned) ?_
          exact Delivery.alone_emits steady.apart _
      | false =>
          simp only [Bool.false_eq_true, if_false, List.append_nil]
          exact (forget_idem _).symm
  | publish event times =>
      cases concerns
      dsimp only [perform, Fanout.perform]
      rw [feedAbandoned_outlook]
      split
      · exact (forget_idem _).symm
      · exact outlook_update (Delivery.forgets_publishes _) (Delivery.alone_publishes _)
          fun delivery => List.foldlRecOn
            (motive := fun reached : Delivery => reached.courier = delivery.courier) _ _ rfl
            fun reached same event _ => (Delivery.wakeIf_reports ..).courier.trans same
  | isEmpty =>
      cases concerns
      exact (forget_idem _).symm
  | release subscriber count =>
      obtain ⟨rfl, rfl⟩ : subscriber = index ∧ Step.release 0 count = own := by
        simpa [Step.concerning] using concerns
      exact outlook_update (Delivery.forgets_permit 0 count) (Delivery.alone_permit count)
        fun delivery => (delivery.permit_reports 0 count).courier
  | settle =>
      cases concerns
      exact absurd rfl waits
  | give errand =>
      cases concerns
      dsimp only [perform, Fanout.perform]
      rw [isOwned_outlook]
      cases owned : watched.fanout.isOwned with
      | true =>
          simp only [if_true]
          exact outlook_giveAway (present_of_isOwned owned) errand
      | false =>
          simp only [Bool.false_eq_true, if_false]
          exact (forget_idem _).symm
  | tellEnd =>
      cases concerns
      exact outlook_update Delivery.forgets_tellEnd Delivery.alone_tellEnd
        fun delivery => (Delivery.wakeIf_reports ..).courier
  | dropFeed =>
      cases concerns
      exact outlook_update Delivery.forgets_abandonFeed Delivery.alone_abandonFeed
        fun delivery => (Delivery.wakeIf_reports ..).courier
  | dropTasks =>
      cases concerns
      exact outlook_dropTasks watched

/-- What the others are allowed does not show. -/
theorem outlook_perform_unseen {step : Step} (steady : watched.fanout.Steady)
    (concerns : step.concerning index = none) :
    (watched.perform step).outlook quiet index = watched.outlook quiet index := by
  cases step with
  | release subscriber count =>
      have others : subscriber ≠ index := by simpa [Step.concerning] using concerns
      have silent : watched.perform (.release subscriber count)
          = watched.after (fun delivery => delivery.permit subscriber count) [] := by
        simp [after, perform, Fanout.perform]
      rw [silent]
      refine outlook_after_unseen steady ?_
      rw [List.append_nil, Delivery.alone_permit_other others]
  | _ => cases concerns

end Watched

end Fanout

end BoundedScene
