import BoundedScene.Proofs.Accounting
import BoundedScene.Proofs.Isolation.Rounds
import BoundedScene.Proofs.Views

/-!
Contract: which subscriber each report of a fan-out is about.

Owns:
- `Fanout.Watched`, a fan-out with the reports so far, each with the lane that it is about;
- the steps of a watched fan-out, which are those of the fan-out;
- what is told of the lanes in any number of steps.

Main statements: `fanout_performs` and `tells_performs`.

Does not own: what the subscribers have to do with each other.
-/

namespace BoundedScene

namespace Fanout

/-- Perform steps in order. -/
def performs (fanout : Fanout) (steps : List Step) : Fanout :=
  steps.foldl perform fanout

/-- A fan-out with the reports so far, each with the lane that it is about. -/
structure Watched where
  fanout : Fanout
  told : List (Nat × Event) := []

namespace Watched

instance : Turns Watched DeliveryTask where
  agenda watched := watched.fanout.agenda
  withAgenda watched agenda := { watched with fanout := { watched.fanout with agenda } }
  resume task watched :=
    { fanout := watched.fanout.resume task
      told := watched.told ++ Delivery.blames task watched.fanout.delivery }
  alarms _ := []
  allowance watched := Turns.allowance watched.fanout

/-- What the owner of the fan-out does. -/
def perform (watched : Watched) : Step → Watched
  | .settle => Turns.settle watched
  | .emit event times =>
      { fanout := watched.fanout.perform (.emit event times)
        told := watched.told ++ if watched.fanout.isOwned then
            Delivery.blamesOfEmits (List.replicate times event) watched.fanout.delivery
          else [] }
  | step => { watched with fanout := watched.fanout.perform step }

def performs (watched : Watched) (steps : List Step) : Watched :=
  steps.foldl perform watched

variable {watched before middle after : Watched}

/-! ## Watching changes nothing -/

theorem fanout_turn (watched : Watched) :
    Turns.turn? watched.fanout = (Turns.turn? watched).map Watched.fanout := by
  cases ready : watched.fanout.agenda.ready with
  | cons task later =>
      rw [Turns.turn_of_ready (show (Turns.agenda watched.fanout).ready = _ from ready),
        Turns.turn_of_ready (show (Turns.agenda watched).ready = _ from ready)]
      rfl
  | nil =>
      rw [Turns.turn_of_idle (show (Turns.agenda watched.fanout).ready = _ from ready),
        Turns.turn_of_idle (show (Turns.agenda watched).ready = _ from ready)]
      show (if watched.fanout.agenda.clock.isBehind then _ else _)
        = Option.map _ (if watched.fanout.agenda.clock.isBehind then _ else _)
      split <;> rfl

theorem fanout_perform (watched : Watched) (step : Step) :
    (watched.perform step).fanout = watched.fanout.perform step := by
  cases step with
  | settle => exact Turns.run_image fanout_turn _ watched
  | _ => rfl

theorem fanout_performs (watched : Watched) (steps : List Step) :
    (watched.performs steps).fanout = watched.fanout.performs steps := by
  induction steps generalizing watched with
  | nil => rfl
  | cons first rest inductionHypothesis =>
      show ((watched.perform first).performs rest).fanout
        = (watched.fanout.perform first).performs rest
      rw [inductionHypothesis, fanout_perform]

/-! ## What is told -/

/-- The watched fan-out goes on, and what is told in the meantime is told of its lanes. -/
def Tells (before after : Watched) : Prop :=
  ∃ said, after.told = before.told ++ said
    ∧ Delivery.Tells before.fanout.delivery said after.fanout.delivery

theorem Tells.trans (first : Tells before middle) (second : Tells middle after) :
    Tells before after := by
  obtain ⟨early, told, tells⟩ := first
  obtain ⟨late, toldLater, tellsLater⟩ := second
  exact ⟨early ++ late, by rw [toldLater, told, List.append_assoc], tells.trans tellsLater⟩

/-- A step in which nothing is told. -/
theorem Tells.of_silent (told : after.told = before.told)
    (silent : Delivery.Tells before.fanout.delivery [] after.fanout.delivery) :
    Tells before after :=
  ⟨[], by rw [told, List.append_nil], silent⟩

theorem Tells.refl (watched : Watched) : Tells watched watched :=
  .of_silent rfl (.still rfl rfl)

theorem Tells.apart (tells : Tells before after)
    (apart : before.fanout.delivery.reports.isSome = true) :
    after.fanout.delivery.reports.isSome = true := by
  obtain ⟨_, -, tells⟩ := tells
  exact tells.apart.trans apart

theorem tells_resume (apart : watched.fanout.delivery.reports.isSome = true)
    (task : DeliveryTask) : Tells watched (Turns.resume task watched) := by
  have told := Delivery.tells_resume apart task
  have settled : (watched.fanout.resume task).delivery
      = { Delivery.resume task watched.fanout.delivery with woken := [] } :=
    (noteCompletion_frame _).2
  refine ⟨_, rfl, ?_⟩
  show Delivery.Tells _ _ (watched.fanout.resume task).delivery
  rw [settled, ← List.append_nil (Delivery.blames _ _)]
  exact told.trans (.still rfl rfl)

theorem tells_settle (apart : watched.fanout.delivery.reports.isSome = true) :
    Tells watched (Turns.settle watched) := by
  have keeps : Turns.Keeps fun later : Watched => Tells watched later :=
    { resume := fun {later task queue} tells _ =>
        let dequeued : Watched :=
          Turns.withAgenda later { Turns.agenda later with ready := queue }
        have waits : Tells later dequeued := .of_silent rfl (.still rfl rfl)
        (tells.trans waits).trans (tells_resume ((tells.trans waits).apart apart) task)
      reach := fun _ tells => tells.trans (.of_silent rfl (.still rfl rfl)) }
  exact keeps.settle (.refl watched)

/-- The tasks that were woken are put on the agenda. -/
theorem tells_update {fanout : Fanout} {said : List (Nat × Event)} {change : Delivery → Delivery}
    (tells : Delivery.Tells fanout.delivery said (change fanout.delivery)) :
    Delivery.Tells fanout.delivery said (fanout.update change).delivery :=
  List.append_nil said ▸ tells.trans (.still rfl rfl)

theorem tells_perform (apart : watched.fanout.delivery.reports.isSome = true) (step : Step) :
    Tells watched (watched.perform step) := by
  cases step with
  | emit event times =>
      refine ⟨_, rfl, ?_⟩
      dsimp only [perform, Fanout.perform]
      split
      · exact tells_update (Delivery.tells_emits apart _)
      · exact .still rfl rfl
  | publish event times =>
      refine .of_silent rfl ?_
      dsimp only [perform, Fanout.perform]
      split
      · exact .still rfl rfl
      · exact tells_update (List.foldlRecOn (motive := Delivery.Tells _ []) _ _ (.still rfl rfl)
          fun reached soFar event _ => soFar.trans (reached.tells_publish event))
  | isEmpty => exact .refl watched
  | release subscriber count =>
      exact .of_silent rfl (tells_update (Delivery.tells_permit ..))
  | settle => exact tells_settle apart
  | give errand =>
      refine .of_silent rfl ?_
      dsimp only [perform, Fanout.perform]
      split <;> exact .still rfl rfl
  | tellEnd => exact .of_silent rfl (tells_update (Delivery.tells_tellEnd _))
  | dropFeed => exact .of_silent rfl (tells_update (Delivery.tells_abandonFeed _))
  | dropTasks => exact .of_silent rfl (Delivery.tells_lose _)

theorem tells_performs (apart : watched.fanout.delivery.reports.isSome = true)
    (steps : List Step) : Tells watched (watched.performs steps) := by
  induction steps generalizing watched with
  | nil => exact .refl watched
  | cons first rest inductionHypothesis =>
      have told := tells_perform apart first
      exact told.trans (inductionHypothesis (told.apart apart))

end Watched

end Fanout

end BoundedScene
