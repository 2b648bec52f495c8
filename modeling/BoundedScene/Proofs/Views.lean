import BoundedScene.Proofs.Agenda
import Mathlib.Logic.Relation

/-!
Contract: two worlds that look alike go on looking alike.

Owns:
- `Turns.Settles` and its like: every time that a world is settled it comes to rest;
- runs that have an image in another world;
- `Turns.Shows`, a view of a world in which a turn is a step of what is seen or does not show;
- `Turns.ShowsTime`, a view that tells the time and what the world waits for.

What is seen comes to rest in one way only, however many turns do not show.  So two worlds
that look alike look alike again each time that both have come to rest.

Main statements: `Shows.settle` and `Shows.elapse`.

Does not own: what a view leaves out.
-/

namespace BoundedScene.Turns

variable {World Task : Type} [DecidableEq Task] [Turns World Task] {world next : World}

/-! ## Coming to rest -/

/-- The world comes to rest within its allowance. -/
def Settles (world : World) : Prop :=
  turn? (settle world) = none

/-- Going from alarm to alarm, the world comes to rest after each. -/
def SettlesAtAlarms (target : Nat) : Nat → World → Prop
  | 0, _ => True
  | jumps + 1, world =>
      match nextAlarm? target world with
      | none => True
      | some due =>
          Settles (reach (due * Span.nanosecondsPerMillisecond) world)
            ∧ SettlesAtAlarms target jumps
                (settle (reach (due * Span.nanosecondsPerMillisecond) world))

/-- While time passes, the world comes to rest at the start, after each alarm and at the
end. -/
def SettlesElapsing (length : Span) (world : World) : Prop :=
  let settled := settle world
  let target := (clock settled).now + length.nanoseconds
  let milliseconds := target / Span.nanosecondsPerMillisecond - (clock settled).noticed
  Settles world ∧ SettlesAtAlarms target milliseconds settled
    ∧ Settles (reach target (followAlarms target milliseconds settled))

instance (world : World) : Decidable (Settles world) :=
  inferInstanceAs (Decidable (turn? (settle world) = none))

instance decidableSettlesAtAlarms (target : Nat) :
    ∀ (jumps : Nat) (world : World), Decidable (SettlesAtAlarms target jumps world)
  | 0, _ => .isTrue trivial
  | jumps + 1, world =>
      match next : nextAlarm? target world with
      | none => .isTrue (by rw [SettlesAtAlarms, next]; trivial)
      | some due =>
          let reached := reach (due * Span.nanosecondsPerMillisecond) world
          have := decidableSettlesAtAlarms target jumps (settle reached)
          decidable_of_iff (Settles reached ∧ SettlesAtAlarms target jumps (settle reached))
            (by rw [SettlesAtAlarms, next])

instance (length : Span) (world : World) : Decidable (SettlesElapsing length world) :=
  inferInstanceAs (Decidable (_ ∧ _ ∧ _))

theorem turn_of_ready {task : Task} {later : List Task}
    (ready : (agenda world).ready = task :: later) :
    turn? world
      = some (resume task (withAgenda world { agenda world with ready := later })) := by
  unfold turn?
  rw [ready]

theorem turn_of_idle (idle : (agenda world).ready = []) :
    turn? world
      = if (clock world).isBehind then some (reach (clock world).now world) else none := by
  unfold turn?
  rw [idle]

/-- At rest no task is ready, and no time has passed that nobody has noticed. -/
theorem idle_of_rest (rest : turn? world = none) :
    (agenda world).ready = [] ∧ (clock world).isBehind = false := by
  unfold turn? at rest
  split at rest
  case h_1 => cases rest
  case h_2 ready =>
    split at rest
    case isTrue => cases rest
    case isFalse current => exact ⟨ready, Bool.not_eq_true _ ▸ current⟩

theorem run_of_rest (rest : turn? world = none) (turns : Nat) : run turns world = world := by
  cases turns with
  | zero => rfl
  | succ turns =>
      unfold run
      rw [rest]

theorem run_of_turn (turn : turn? world = some next) (turns : Nat) :
    run (turns + 1) world = run turns next := by
  simp only [run, turn]

/-- A world comes to rest in one way only. -/
theorem rest_unique {first second : Nat} (restFirst : turn? (run first world) = none)
    (restSecond : turn? (run second world) = none) : run first world = run second world := by
  induction first generalizing second world with
  | zero => exact (run_of_rest restFirst second).symm
  | succ first inductionHypothesis =>
      cases turn : turn? world with
      | none => rw [run_of_rest turn, run_of_rest turn]
      | some next =>
          cases second with
          | zero => cases turn.symm.trans restSecond
          | succ second =>
              rw [run_of_turn turn] at restFirst restSecond ⊢
              rw [run_of_turn turn]
              exact inductionHypothesis restFirst restSecond

/-- Where each turn has an image, a run has one. -/
theorem run_image {Image ImageTask : Type} [DecidableEq ImageTask] [Turns Image ImageTask]
    {image : World → Image} (turn : ∀ world, turn? (image world) = (turn? world).map image)
    (turns : Nat) (world : World) : image (run turns world) = run turns (image world) := by
  induction turns generalizing world with
  | zero => rfl
  | succ turns inductionHypothesis =>
      cases own : turn? world with
      | none =>
          have rest : turn? (image world) = none := by rw [turn, own, Option.map_none]
          rw [run_of_rest own, run_of_rest rest]
      | some next =>
          have imageTurn : turn? (image world) = some (image next) := by
            rw [turn, own, Option.map_some]
          rw [run_of_turn own, run_of_turn imageTurn, inductionHypothesis]

/-! ## What keeps settling -/

namespace Keeps

variable {holds : World → Prop}

theorem settlesAtAlarms (keeps : Keeps holds) (settles : ∀ world, holds world → Settles world)
    (target jumps : Nat) (held : holds world) : SettlesAtAlarms target jumps world := by
  induction jumps generalizing world with
  | zero => trivial
  | succ jumps inductionHypothesis =>
      unfold SettlesAtAlarms
      split
      · trivial
      case h_2 due _ =>
        have reached := keeps.reach (due * Span.nanosecondsPerMillisecond) held
        exact ⟨settles _ reached, inductionHypothesis (keeps.settle reached)⟩

theorem settlesElapsing (keeps : Keeps holds) (settles : ∀ world, holds world → Settles world)
    (length : Span) (held : holds world) : SettlesElapsing length world := by
  have settled := keeps.settle held
  exact ⟨settles _ held, keeps.settlesAtAlarms settles _ _ settled,
    settles _ (keeps.reach _ (keeps.followAlarms _ _ settled))⟩

end Keeps

/-! ## Views -/

variable {Seen : Type}

/-- What is seen goes on by itself. -/
def GoesOn (next? : Seen → Option Seen) : Seen → Seen → Prop :=
  Relation.ReflTransGen fun before after => next? before = some after

/-- What goes on by itself comes to rest in one way only. -/
theorem goesOn_unique {next? : Seen → Option Seen} {start first second : Seen}
    (toFirst : GoesOn next? start first) (toSecond : GoesOn next? start second)
    (restFirst : next? first = none) (restSecond : next? second = none) : first = second := by
  have stuck {rest seen : Seen} (still : next? rest = none) (goes : GoesOn next? rest seen) :
      rest = seen := by
    rcases goes.cases_head with same | ⟨_, step, -⟩
    · exact same
    · cases still.symm.trans step
  have unique : Relator.RightUnique fun before after : Seen => next? before = some after :=
    fun _ _ _ left right => Option.some.inj (left.symm.trans right)
  rcases toFirst.total_of_right_unique unique toSecond with onward | backward
  · exact stuck restFirst onward
  · exact (stuck restSecond backward).symm

/-- A view of worlds in which every turn is a step of what is seen or does not show, and a
world at rest looks at rest. -/
structure Shows (holds : World → Prop) (view : World → Seen) (next? : Seen → Option Seen) :
    Prop where
  keeps : Keeps holds
  turn : ∀ {world next : World}, holds world → turn? world = some next →
    view next = view world ∨ next? (view world) = some (view next)
  rest : ∀ {world : World}, holds world → turn? world = none → next? (view world) = none

namespace Shows

variable {holds leftHolds rightHolds : World → Prop} {view leftView rightView : World → Seen}
  {next? : Seen → Option Seen} {left right : World}

theorem run (shown : Shows holds view next?) (turns : Nat) (held : holds world) :
    GoesOn next? (view world) (view (Turns.run turns world)) := by
  induction turns generalizing world with
  | zero => exact .refl
  | succ turns inductionHypothesis =>
      cases turn : turn? world with
      | none =>
          rw [run_of_rest turn]
          exact .refl
      | some next =>
          have later := inductionHypothesis (shown.keeps.turn? held turn)
          rw [run_of_turn turn]
          rcases shown.turn held turn with unseen | seen
          · rwa [unseen] at later
          · exact .head seen later

/-- Worlds that look alike look alike when both have come to rest. -/
theorem settle (leftShows : Shows leftHolds leftView next?)
    (rightShows : Shows rightHolds rightView next?) (leftHeld : leftHolds left)
    (rightHeld : rightHolds right) (same : leftView left = rightView right)
    (leftSettles : Settles left) (rightSettles : Settles right) :
    leftView (Turns.settle left) = rightView (Turns.settle right) := by
  have leftRun := leftShows.run (allowance left) leftHeld
  have rightRun := rightShows.run (allowance right) rightHeld
  rw [same] at leftRun
  exact goesOn_unique leftRun rightRun
    (leftShows.rest (leftShows.keeps.settle leftHeld) leftSettles)
    (rightShows.rest (rightShows.keeps.settle rightHeld) rightSettles)

end Shows

/-! ## The passage of time -/

/-- A view that tells the time, and for which milliseconds the world waits. -/
structure ShowsTime (view : World → Seen) : Prop where
  clock : ∀ {left right : World}, view left = view right →
    Turns.clock left = Turns.clock right
  alarms : ∀ {left right : World}, view left = view right →
    Turns.alarms left = Turns.alarms right
  reach : ∀ {left right : World} (instant : Nat), view left = view right →
    view (Turns.reach instant left) = view (Turns.reach instant right)

namespace Shows

variable {holds : World → Prop} {view : World → Seen} {next? : Seen → Option Seen}
  {left right : World}

theorem followAlarms (shown : Shows holds view next?) (time : ShowsTime view)
    (target jumps : Nat) (leftHeld : holds left) (rightHeld : holds right)
    (same : view left = view right) (leftSettles : SettlesAtAlarms target jumps left)
    (rightSettles : SettlesAtAlarms target jumps right) :
    view (Turns.followAlarms target jumps left) = view (Turns.followAlarms target jumps right) := by
  induction jumps generalizing left right with
  | zero => exact same
  | succ jumps inductionHypothesis =>
      have alarm : nextAlarm? target left = nextAlarm? target right := by
        unfold nextAlarm?
        rw [time.clock same, time.alarms same]
      unfold Turns.followAlarms
      unfold SettlesAtAlarms at leftSettles rightSettles
      rw [alarm] at leftSettles ⊢
      cases next : nextAlarm? target right with
      | none => exact same
      | some due =>
          rw [next] at leftSettles rightSettles
          have leftReached := shown.keeps.reach (due * Span.nanosecondsPerMillisecond) leftHeld
          have rightReached := shown.keeps.reach (due * Span.nanosecondsPerMillisecond) rightHeld
          exact inductionHypothesis (shown.keeps.settle leftReached)
            (shown.keeps.settle rightReached)
            (shown.settle shown leftReached rightReached (time.reach _ same) leftSettles.1
              rightSettles.1)
            leftSettles.2 rightSettles.2

theorem elapse (shown : Shows holds view next?) (time : ShowsTime view) (length : Span)
    (leftHeld : holds left) (rightHeld : holds right) (same : view left = view right)
    (leftSettles : SettlesElapsing length left) (rightSettles : SettlesElapsing length right) :
    view (Turns.elapse length left) = view (Turns.elapse length right) := by
  obtain ⟨leftFirst, leftAlarms, leftLast⟩ := leftSettles
  obtain ⟨rightFirst, rightAlarms, rightLast⟩ := rightSettles
  have leftSettled := shown.keeps.settle leftHeld
  have rightSettled := shown.keeps.settle rightHeld
  have settled := shown.settle shown leftHeld rightHeld same leftFirst rightFirst
  have clock := time.clock settled
  unfold Turns.elapse
  dsimp only at leftAlarms leftLast rightAlarms rightLast ⊢
  rw [clock] at leftAlarms leftLast ⊢
  have followed := shown.followAlarms time _ _ leftSettled rightSettled settled leftAlarms
    rightAlarms
  exact shown.settle shown (shown.keeps.reach _ (shown.keeps.followAlarms _ _ leftSettled))
    (shown.keeps.reach _ (shown.keeps.followAlarms _ _ rightSettled))
    (time.reach _ followed) leftLast rightLast

end Shows

end BoundedScene.Turns
