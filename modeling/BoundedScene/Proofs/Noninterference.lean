import BoundedScene.Proofs.Bare
import BoundedScene.Proofs.Views

/-!
Contract: subscribers do not influence the scene that they watch.

Owns:
- that the bare self of a scene is a view of it in which own turns are steps and others do
  not show;
- `Alike`, what two scenes have in common whose bare selves are one;
- that the bare selves of two scenes stay one while each settles on its own.

A turn of a scene is a turn of its bare self or none at all, and the bare self, left to
itself, comes to rest in one way only.

Main statement: `observers_never_influence`.

Does not own: how `bare` goes along with the functions of a scene.
-/

namespace BoundedScene

namespace Session

variable {V : Type} {session left right next : Session V}

/-! ## The turns of the bare scene -/

/-- A turn of a scene is one of its bare self, or it does not show there. -/
theorem bare_turn (turn : Turns.turn? session = some next) :
    next.bare = session.bare ∨ Turns.turn? session.bare = some next.bare := by
  unfold Turns.turn? at turn
  cases ready : (Turns.agenda session).ready with
  | nil =>
      rw [ready] at turn
      have idle : (Turns.agenda session.bare).ready = [] :=
        congrArg (List.filter SceneTask.isOwn) ready
      split at turn
      case h_1 busy => cases busy
      case h_2 =>
        split at turn
        case isFalse => cases turn
        case isTrue behind =>
          obtain rfl := Option.some.inj turn
          right
          unfold Turns.turn?
          rw [idle]
          exact (if_pos behind).trans (congrArg some (bare_reach _ session).symm)
  | cons task later =>
      rw [ready] at turn
      obtain rfl := Option.some.inj turn
      let taken : Session V := { session with agenda := { session.agenda with ready := later } }
      have resumed := bare_resume task taken
      have filtered : (Turns.agenda session.bare).ready = (task :: later).filter SceneTask.isOwn :=
        congrArg (List.filter SceneTask.isOwn) ready
      rw [List.filter_cons] at filtered
      cases own : task.isOwn with
      | true =>
          rw [own, if_pos rfl] at resumed filtered
          right
          unfold Turns.turn?
          rw [filtered]
          exact congrArg some resumed.symm
      | false =>
          rw [own, if_neg (by simp)] at resumed filtered
          left
          refine resumed.trans ?_
          have same : later.filter SceneTask.isOwn = session.agenda.ready.filter SceneTask.isOwn :=
            filtered.symm
          show ({ session with
            agenda := { session.agenda with ready := later.filter SceneTask.isOwn }
            delivery := session.delivery.bare } : Session V) = session.bare
          rw [same]
          rfl

theorem bare_rests (rest : Turns.turn? session = none) : Turns.turn? session.bare = none := by
  unfold Turns.turn? at rest
  split at rest
  case h_1 => cases rest
  case h_2 ready =>
    have idle : (Turns.agenda session.bare).ready = [] :=
      congrArg (List.filter SceneTask.isOwn) ready
    split at rest
    case isTrue => cases rest
    case isFalse noticed =>
      unfold Turns.turn?
      rw [idle]
      exact if_neg noticed

theorem bare_shows :
    Turns.Shows (fun _ : Session V => True) bare fun session => Turns.turn? session where
  keeps := ⟨fun _ _ => trivial, fun _ _ => trivial⟩
  turn _ turn := bare_turn turn
  rest _ rest := bare_rests rest

/-! ## Two runs -/

/-- All that two scenes show but for their subscribers.

- `calls`: the calls made, with what they were answered and in which millisecond;
- `journal`: what has happened, and at which instant;
- `events`: the events published, without the reports about subscribers. -/
structure Alike (left right : Session V) : Prop where
  calls : left.calls = right.calls
  journal : left.journal = right.journal
  cleanups : left.cleanups = right.cleanups
  phase : left.phase = right.phase
  clock : left.clock = right.clock
  events : left.delivery.sceneEvents = right.delivery.sceneEvents

theorem alike_of_bare (same : left.bare = right.bare) : Alike left right := by
  have shown {α : Type} (show? : Session V → α) : show? left.bare = show? right.bare :=
    congrArg show? same
  exact {
    calls := shown calls
    journal := shown journal
    cleanups := shown cleanups
    phase := shown phase
    clock := shown clock
    events := shown fun session => session.delivery.feed.published }

theorem bare_showsTime : Turns.ShowsTime (bare : Session V → Session V) where
  clock same := (alike_of_bare same).clock
  alarms {left right} same := by
    show left.bare.alarms = right.bare.alarms
    rw [same]
  reach instant same := by rw [bare_reach, bare_reach, same]

/-! ## Steps -/

/-- A deed that concerns the scene itself, not the pace of a subscriber. -/
def Deed.isOwn : Deed V → Bool
  | .release _ _ => false
  | _ => true

/-- A step without what concerns the pace of subscribers. -/
def Step.own : Step V → Step V
  | .deeds done => .deeds (done.filter Deed.isOwn)
  | .elapse length => .elapse length

/-- Whenever the scene is settled in a step, it comes to rest. -/
def SettlesIn (session : Session V) : Step V → Prop
  | .deeds deeds => Turns.Settles (session.actAll deeds)
  | .elapse length => Turns.SettlesElapsing length session

/-- Whenever the scene is settled in a run, it comes to rest. -/
def SettlesThroughout : Session V → List (Step V) → Prop
  | _, [] => True
  | session, step :: later =>
      session.SettlesIn step ∧ (session.perform step).SettlesThroughout later

instance (session : Session V) : ∀ step : Step V, Decidable (session.SettlesIn step)
  | .deeds deeds => inferInstanceAs (Decidable (Turns.Settles (session.actAll deeds)))
  | .elapse length => inferInstanceAs (Decidable (Turns.SettlesElapsing length session))

instance decidableSettlesThroughout :
    ∀ (session : Session V) (steps : List (Step V)), Decidable (session.SettlesThroughout steps)
  | _, [] => .isTrue trivial
  | session, step :: later =>
      have := decidableSettlesThroughout (session.perform step) later
      inferInstanceAs (Decidable (session.SettlesIn step ∧ _))

theorem bare_actAll (deeds : List (Deed V)) (session : Session V) :
    (session.actAll deeds).bare = session.bare.actAll (deeds.filter Deed.isOwn) := by
  induction deeds generalizing session with
  | nil => rfl
  | cons deed rest inductionHypothesis =>
      show ((session.act deed).actAll rest).bare = _
      rw [inductionHypothesis, bare_act, List.filter_cons]
      cases deed <;> rfl

theorem bare_perform (same : left.bare = right.bare) {leftStep rightStep : Step V}
    (own : leftStep.own = rightStep.own) (leftSettles : left.SettlesIn leftStep)
    (rightSettles : right.SettlesIn rightStep) :
    (left.perform leftStep).bare = (right.perform rightStep).bare := by
  cases leftStep with
  | deeds leftDeeds =>
      cases rightStep with
      | deeds rightDeeds =>
          refine bare_shows.settle bare_shows trivial trivial ?_ leftSettles rightSettles
          rw [bare_actAll, bare_actAll, same, Step.deeds.inj own]
      | elapse length => cases own
  | elapse length =>
      cases rightStep with
      | deeds deeds => cases own
      | elapse other =>
          obtain rfl : length = other := Step.elapse.inj own
          exact bare_shows.elapse bare_showsTime length trivial trivial same leftSettles
            rightSettles

theorem bare_performAll {leftSteps rightSteps : List (Step V)} (same : left.bare = right.bare)
    (own : leftSteps.map Step.own = rightSteps.map Step.own)
    (leftSettles : left.SettlesThroughout leftSteps)
    (rightSettles : right.SettlesThroughout rightSteps) :
    (left.performAll leftSteps).bare = (right.performAll rightSteps).bare := by
  induction leftSteps generalizing left right rightSteps with
  | nil =>
      obtain rfl : rightSteps = [] := List.map_eq_nil_iff.mp own.symm
      exact same
  | cons step later inductionHypothesis =>
      cases rightSteps with
      | nil => cases own
      | cons rightStep rightLater =>
          obtain ⟨ownStep, ownLater⟩ := List.cons.inj own
          have performed := bare_perform same ownStep leftSettles.1 rightSettles.1
          show ((left.perform step).performAll later).bare
            = ((right.perform rightStep).performAll rightLater).bare
          exact inductionHypothesis performed ownLater leftSettles.2 rightSettles.2

/-- The bare self of a scene about to start is the scene built without subscribers. -/
theorem bare_of_create? {settings : Settings} {visiting : VisitingOrder V}
    {profiles : List Profile} (created : create? settings profiles visiting = some session) :
    create? settings [] visiting = some session.bare := by
  unfold create? at created ⊢
  split at created
  case isFalse => cases created
  case isTrue fits =>
    rw [Bool.and_eq_true] at fits
    obtain ⟨feed, fed, rfl⟩ := Option.map_eq_some_iff.mp created
    have unpublished : feed.published = [] := Bus.published_of_create? fed
    obtain ⟨slots, published⟩ := feed
    obtain rfl : published = [] := unpublished
    rw [if_pos (by simpa using fits.1), fed, Option.map_some]
    have workers (lanes : List DeliveryTask) :
        (lanes.map SceneTask.delivery).filter SceneTask.isOwn = [] := by
      simp [List.filter_eq_nil_iff, SceneTask.isOwn]
    unfold bare
    dsimp only
    rw [List.filter_append, workers, List.filter_cons_of_pos (by rfl),
      apply_ite (List.filter SceneTask.isOwn)]
    simp [Delivery.bare, Delivery.sceneEvents, Delivery.workerTasks, SceneTask.isOwn]

end Session

end BoundedScene
